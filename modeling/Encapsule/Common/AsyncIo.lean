import Encapsule.Common.Schema
import Encapsule.Foundation.Framing

/-!
# Messages on a socket

`async_io.hpp`: a message travels as four octets of length, the least significant first, and the
encoded message.  The protobuf coder of the messages is a parameter.  `async_write_message` is two
writes with a suspension between them, so it is a step function in the modules that use it; here are
the octets of the two writes, and the reader.
-/

namespace Encapsule

/-- `pp::message_coder` of a type of messages. -/
structure MessageCoder (M : Type) where
  encode : M → Bytes
  decode : Bytes → Option M

/-- The lengths that a nonnegative `int32_t` holds. -/
abbrev int32Bound : ℕ := 2 ^ 31

/-- The octets of an `int32_t` that holds a length. -/
def lengthOctets (len : ℕ) : Bytes :=
  [UInt8.ofNat len, UInt8.ofNat (len / 2 ^ 8), UInt8.ofNat (len / 2 ^ 16),
    UInt8.ofNat (len / 2 ^ 24)]

/-- The length in four octets, unless it is negative. -/
def readLength (b₀ b₁ b₂ b₃ : UInt8) : Option ℕ :=
  let len := b₀.toNat + 2 ^ 8 * b₁.toNat + 2 ^ 16 * b₂.toNat + 2 ^ 24 * b₃.toNat
  if len < int32Bound then some len else none

namespace MessageCoder

variable {M : Type} (coder : MessageCoder M)

/-- What `async_write_message` writes for a message, in two writes. -/
def frame (msg : M) : Bytes := lengthOctets (coder.encode msg).length ++ coder.encode msg

/-- `async_read_message`: the next message of a stream and what follows it.  None if the stream ends
too early, if the length is negative or if the octets are no message. -/
def asyncReadMessage : Bytes → Option (M × Bytes)
  | b₀ :: b₁ :: b₂ :: b₃ :: stream =>
    match readLength b₀ b₁ b₂ b₃ with
    | none => none
    | some len =>
      if stream.length < len then none
      else (coder.decode (stream.take len)).map fun msg => (msg, stream.drop len)
  | _ => none

/-- The message has an encoding that its length field can announce and that decodes to it. -/
def Transmits (msg : M) : Prop :=
  (coder.encode msg).length < int32Bound ∧ coder.decode (coder.encode msg) = some msg

variable {coder}

/-- The length that is written is the length that is read. -/
lemma readLength_lengthOctets {len : ℕ} (h : len < int32Bound) :
    readLength (UInt8.ofNat len) (UInt8.ofNat (len / 2 ^ 8)) (UInt8.ofNat (len / 2 ^ 16))
      (UInt8.ofNat (len / 2 ^ 24)) = some len := by
  have hsum : len % 2 ^ 8 + 2 ^ 8 * (len / 2 ^ 8 % 2 ^ 8) + 2 ^ 16 * (len / 2 ^ 16 % 2 ^ 8) +
      2 ^ 24 * (len / 2 ^ 24 % 2 ^ 8) = len := by
    unfold int32Bound at h
    omega
  simp only [readLength, UInt8.toNat_ofNat', hsum, if_pos h]

/-- A message that was written is read, and nothing after it. -/
lemma asyncReadMessage_frame {msg : M} (h : coder.Transmits msg) (rest : Bytes) :
    coder.asyncReadMessage (coder.frame msg ++ rest) = some (msg, rest) := by
  obtain ⟨hlength, hdecode⟩ := h
  have hnotShort : ¬ (coder.encode msg ++ rest).length < (coder.encode msg).length := by
    rw [List.length_append]
    omega
  simp only [frame, lengthOctets, List.cons_append, List.nil_append, asyncReadMessage,
    readLength_lengthOctets hlength, if_neg hnotShort, List.take_left, List.drop_left, hdecode,
    Option.map_some]

end MessageCoder

end Encapsule
