import Encapsule.Foundation.Interaction

/-!
# Programs that read memory

A program that reads an area of memory somebody else handed it is an interaction program with two
calls: the load of one cell, and the copy of a block of cells into an array of known size.  The
program is not told how large the area is.

* `Memory.run p mem`: the value `p` returns on an area with the cells `mem`.
* `Memory.InBounds size p mem`: on that area every read of `p` stays below `size`, and every copy
  fits into its array.
* `run_congr`, finite use: a program whose reads stay below `size` computes the same value on every
  area that has the same cells below `size`.
-/

namespace Memory

open Interaction

/-- A read: of one cell, or of `n` cells that are copied into an array of `room` cells. -/
inductive Read where
  | load (i : ℕ)
  | copy (off n room : ℕ)

/-- What a read of an area with cells in `β` gives. -/
abbrev Read.Answer (β : Type) : Read → Type
  | .load _ => β
  | .copy _ _ _ => List β

/-- The read stays below `size`, and what is copied fits. -/
def Read.Within (size : ℕ) : Read → Prop
  | .load i => i < size
  | .copy off n room => off + n ≤ size ∧ n ≤ room

/-- Programs that read an area with cells in `β`. -/
abbrev Reader (β α : Type) : Type := Prog (Read.Answer β) α

variable {α β γ : Type}

/-- The cell at `i`. -/
def load (i : ℕ) : Reader β β := Prog.ask (Read.load i)

/-- The `n` cells from `off` on, copied into an array of `room` cells. -/
def copy (off n room : ℕ) : Reader β (List β) := Prog.ask (Read.copy off n room)

/-- The `n` cells of an area from `off` on. -/
def block (mem : ℕ → β) (off n : ℕ) : List β := (List.range n).map fun j => mem (off + j)

/-- What an area answers to a read. -/
def answer (mem : ℕ → β) : (r : Read) → Read.Answer β r
  | .load i => mem i
  | .copy off n _ => block mem off n

/-- The value of a program on an area. -/
def run (p : Reader β α) (mem : ℕ → β) : α :=
  (p.interp (fun r (_ : Unit) => (answer mem r, ())) ()).1

/-- Every read of a program on an area stays below `size`, and every copy fits. -/
def InBounds (size : ℕ) (p : Reader β α) (mem : ℕ → β) : Prop :=
  p.Guarantees (fun e => e.2 = answer mem e.1) (Read.Within size) fun _ => True

variable {size size' : ℕ} {p q : Reader β α} {f : α → Reader β γ} {mem mem' : ℕ → β}

/-! ## The value of a program -/

@[simp] lemma run_ret (a : α) : run (Prog.ret a : Reader β α) mem = a := rfl

@[simp] lemma run_load (i : ℕ) : run (load i) mem = mem i := by rfl

@[simp] lemma run_copy (off n room : ℕ) : run (copy off n room) mem = block mem off n := by rfl

@[simp] lemma run_bind : run (p.bind f) mem = run (f (run p mem)) mem :=
  congrArg Prod.fst (Prog.interp_bind p f ())

@[simp] lemma run_ite {c : Prop} [Decidable c] :
    run (if c then p else q) mem = if c then run p mem else run q mem :=
  apply_ite (fun r => run r mem) c p q

/-! ## The reads of a program -/

@[simp] lemma inBounds_ret (a : α) : InBounds size (Prog.ret a : Reader β α) mem := trivial

@[simp] lemma inBounds_load (i : ℕ) : InBounds size (load i) mem ↔ i < size :=
  and_iff_left fun _ _ => trivial

@[simp] lemma inBounds_copy (off n room : ℕ) :
    InBounds size (copy off n room) mem ↔ off + n ≤ size ∧ n ≤ room :=
  and_iff_left fun _ _ => trivial

/-- The reads of a composition are those of its parts. -/
@[simp] lemma inBounds_bind :
    InBounds size (p.bind f) mem ↔ InBounds size p mem ∧ InBounds size (f (run p mem)) mem := by
  induction p with
  | ret a => exact (and_iff_right trivial).symm
  | call c k ih =>
    constructor
    · rintro ⟨hread, hrest⟩
      refine ⟨⟨hread, fun x hx => ((ih x).mp (hrest x hx)).1⟩, ?_⟩
      exact ((ih (answer mem c)).mp (hrest _ rfl)).2
    · rintro ⟨⟨hread, hrest⟩, hf⟩
      refine ⟨hread, fun x hx => (ih x).mpr ⟨hrest x hx, ?_⟩⟩
      obtain rfl : x = answer mem c := hx
      exact hf

/-- The reads of a choice are those of the branch that is taken. -/
@[simp] lemma inBounds_ite {c : Prop} [Decidable c] :
    InBounds size (if c then p else q) mem ↔
      if c then InBounds size p mem else InBounds size q mem := by
  split_ifs <;> rfl

/-- Reads that stay below a bound stay below a larger one. -/
lemma InBounds.mono (h : InBounds size p mem) (hle : size ≤ size') : InBounds size' p mem := by
  refine Prog.Guarantees.mono h (fun _ he => he) (fun c hread => ?_) (fun _ ha => ha)
  cases c with
  | load i => exact Nat.lt_of_lt_of_le hread hle
  | copy off n room => exact ⟨Nat.le_trans hread.1 hle, hread.2⟩

/-! ## Finite use -/

/-- A read below `size` does not tell apart two areas with the same cells there. -/
lemma answer_congr (h : ∀ i < size, mem i = mem' i) {r : Read} (hread : r.Within size) :
    answer mem r = answer mem' r := by
  cases r with
  | load i => exact h i hread
  | copy off n room =>
    refine List.map_congr_left fun j hj => h (off + j) ?_
    have hlt : j < n := List.mem_range.mp hj
    have hle : off + n ≤ size := hread.1
    omega

/-- **Finite use.** A program whose reads stay below `size` computes the same value on every area
with the same cells there, and reads the same of it. -/
theorem run_congr (h : ∀ i < size, mem i = mem' i) (hp : InBounds size p mem) :
    run p mem = run p mem' ∧ InBounds size p mem' := by
  induction p with
  | ret a => exact ⟨rfl, trivial⟩
  | call c k ih =>
    obtain ⟨hread, hrest⟩ := hp
    have hanswer : answer mem c = answer mem' c := answer_congr h hread
    obtain ⟨hrun, hbound⟩ := ih (answer mem c) (hrest _ rfl)
    refine ⟨?_, hread, fun x hx => ?_⟩
    · change run (k (answer mem c)) mem = run (k (answer mem' c)) mem'
      rw [hrun, hanswer]
    · obtain rfl : x = answer mem' c := hx
      rw [← hanswer]
      exact hbound

end Memory
