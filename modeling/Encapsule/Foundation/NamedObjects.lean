import Mathlib.Data.List.Basic
import Mathlib.Data.List.Nodup
import Mathlib.Logic.Function.Basic

/-!
# Named objects that live as long as their handles

A kernel keeps objects under names.  Whoever names one gets a handle on it: on the object that has
the name, if some handle on it is open, and otherwise on a new one.  A name is given up when the
last handle that was opened under it is closed; what is opened under it later is another object.

A handle is listed with whoever opened it, so that a thread can be told its own handles.

* `NamedObjects.create`, `NamedObjects.openNamed`, `NamedObjects.close`, `NamedObjects.write`.
* `NamedObjects.lookup_eq`: while a handle is open, its name stands for its object.
-/

variable {ι N V : Type}

/-- A handle, with whoever opened it and what it is open on. -/
structure ObjectHandle (ι N : Type) where
  opener : ι
  serial : ℕ
  name : N
  object : ℕ
  deriving DecidableEq

/-- The handles that are open, and the contents of the objects. -/
structure NamedObjects (ι N V : Type) where
  opened : List (ObjectHandle ι N)
  contents : ℕ → V
  /-- The number for the next handle, or the next object. -/
  fresh : ℕ
  nodup : opened.Nodup
  serial_lt : ∀ h ∈ opened, h.serial < fresh
  object_lt : ∀ h ∈ opened, h.object < fresh
  /-- A name stands for one object, and an object has one name. -/
  name_iff : ∀ h ∈ opened, ∀ h' ∈ opened, h.name = h'.name ↔ h.object = h'.object

namespace NamedObjects

/-! ## Handles -/

/-- Nothing is open. -/
def unopened (contents : ℕ → V) : NamedObjects ι N V where
  opened := []
  contents := contents
  fresh := 0
  nodup := List.nodup_nil
  serial_lt := nofun
  object_lt := nofun
  name_iff := nofun

/-- The handle that is opened next, on an object. -/
def nextHandle (s : NamedObjects ι N V) (i : ι) (n : N) (o : ℕ) : ObjectHandle ι N where
  opener := i
  serial := s.fresh
  name := n
  object := o

/-- The next handle is a new one. -/
lemma nextHandle_notMem (s : NamedObjects ι N V) (i : ι) (n : N) (o : ℕ) :
    s.nextHandle i n o ∉ s.opened :=
  fun hopen => absurd (s.serial_lt _ hopen) (Nat.lt_irrefl _)

/-- One more handle, on an object that has the name and no other. -/
def addHandle (s : NamedObjects ι N V) (i : ι) (n : N) (o : ℕ) (contents : ℕ → V)
    (ho : o ≤ s.fresh) (hname : ∀ h ∈ s.opened, n = h.name ↔ o = h.object) :
    NamedObjects ι N V where
  opened := s.nextHandle i n o :: s.opened
  contents := contents
  fresh := s.fresh + 1
  nodup := List.nodup_cons.mpr ⟨s.nextHandle_notMem i n o, s.nodup⟩
  serial_lt := by
    rintro h (_ | ⟨_, hopen⟩)
    · exact Nat.lt_succ_self _
    · exact Nat.lt_succ_of_lt (s.serial_lt h hopen)
  object_lt := by
    rintro h (_ | ⟨_, hopen⟩)
    · exact Nat.lt_succ_of_le ho
    · exact Nat.lt_succ_of_lt (s.object_lt h hopen)
  name_iff := by
    rintro h (_ | ⟨_, hopen⟩) h' (_ | ⟨_, hopen'⟩)
    · exact iff_of_true rfl rfl
    · exact hname h' hopen'
    · rw [eq_comm, @eq_comm _ h.object]
      exact hname h hopen
    · exact s.name_iff h hopen h' hopen'

section Lookup

variable [DecidableEq N]

/-- The object that a name stands for. -/
def lookup (s : NamedObjects ι N V) (n : N) : Option ℕ :=
  (s.opened.find? fun h => h.name = n).map ObjectHandle.object

/-- While a handle is open, its name stands for its object. -/
lemma lookup_eq {s : NamedObjects ι N V} {h : ObjectHandle ι N} (hopen : h ∈ s.opened) :
    s.lookup h.name = some h.object := by
  have hsome : (s.opened.find? fun h' => h'.name = h.name).isSome := by
    rw [List.find?_isSome]
    exact ⟨h, hopen, by simp⟩
  obtain ⟨h', hfind⟩ := Option.isSome_iff_exists.mp hsome
  have hname : h'.name = h.name := by simpa using List.find?_some hfind
  have hobject := (s.name_iff h' (List.mem_of_find?_eq_some hfind) h hopen).mp hname
  rw [lookup, hfind, Option.map_some, hobject]

/-- What a name stands for is the object of a handle that was opened under it. -/
lemma exists_of_lookup {s : NamedObjects ι N V} {n : N} {o : ℕ} (h : s.lookup n = some o) :
    ∃ handle ∈ s.opened, handle.name = n ∧ handle.object = o := by
  obtain ⟨handle, hfind, hobject⟩ := Option.map_eq_some_iff.mp h
  exact ⟨handle, List.mem_of_find?_eq_some hfind, by simpa using List.find?_some hfind, hobject⟩

/-- A handle can be opened on the object that a name stands for. -/
lemma le_fresh_of_lookup {s : NamedObjects ι N V} {n : N} {o : ℕ} (ho : s.lookup n = some o) :
    o ≤ s.fresh ∧ ∀ h ∈ s.opened, n = h.name ↔ o = h.object := by
  obtain ⟨handle, hopen, rfl, rfl⟩ := exists_of_lookup ho
  exact ⟨Nat.le_of_lt (s.object_lt handle hopen), s.name_iff handle hopen⟩

/-- A new object can be opened under a name that stands for none. -/
lemma fresh_of_lookup {s : NamedObjects ι N V} {n : N} (hn : s.lookup n = none) :
    ∀ h ∈ s.opened, n = h.name ↔ s.fresh = h.object := by
  intro h hopen
  refine iff_of_false ?_ (Nat.ne_of_gt (s.object_lt h hopen))
  rintro rfl
  rw [lookup_eq hopen] at hn
  cases hn

/-- An object is created under a name, or opened if the name stands for one. -/
def create (s : NamedObjects ι N V) (i : ι) (n : N) (v : V) :
    NamedObjects ι N V × ObjectHandle ι N :=
  match ho : s.lookup n with
  | some o =>
    (s.addHandle i n o s.contents (le_fresh_of_lookup ho).1 (le_fresh_of_lookup ho).2,
      s.nextHandle i n o)
  | none =>
    (s.addHandle i n s.fresh (Function.update s.contents s.fresh v) (Nat.le_refl _)
      (fresh_of_lookup ho), s.nextHandle i n s.fresh)

/-- The object that a name stands for is opened. -/
def openNamed (s : NamedObjects ι N V) (i : ι) (n : N) :
    NamedObjects ι N V × Option (ObjectHandle ι N) :=
  match ho : s.lookup n with
  | some o =>
    (s.addHandle i n o s.contents (le_fresh_of_lookup ho).1 (le_fresh_of_lookup ho).2,
      some (s.nextHandle i n o))
  | none => (s, none)

/-- What `create` does: there is one more handle, by the one who asks and under the name, and the
objects that there were are left alone. -/
lemma create_spec (s : NamedObjects ι N V) (i : ι) (n : N) (v : V) :
    ∃ o, (s.create i n v).2 = s.nextHandle i n o ∧
      (s.create i n v).1.opened = s.nextHandle i n o :: s.opened ∧
      (∀ h ∈ s.opened, (s.create i n v).1.contents h.object = s.contents h.object) ∧
      ((∃ h ∈ s.opened, h.name = n ∧ h.object = o) ∨ (s.create i n v).1.contents o = v) := by
  unfold create
  split
  · next o ho =>
    exact ⟨o, rfl, rfl, fun _ _ => rfl, Or.inl (exists_of_lookup ho)⟩
  · refine ⟨s.fresh, rfl, rfl, fun h hopen => ?_, Or.inr (Function.update_self _ _ _)⟩
    exact Function.update_of_ne (Nat.ne_of_lt (s.object_lt h hopen)) _ _

/-- What `openNamed` does: nothing if the name stands for no object, and otherwise there is one more
handle on that object. -/
lemma openNamed_spec (s : NamedObjects ι N V) (i : ι) (n : N) :
    (s.openNamed i n = (s, none) ∧ s.lookup n = none) ∨
      ∃ o, s.lookup n = some o ∧ (s.openNamed i n).2 = some (s.nextHandle i n o) ∧
        (s.openNamed i n).1.opened = s.nextHandle i n o :: s.opened ∧
        (s.openNamed i n).1.contents = s.contents := by
  unfold openNamed
  split
  · next o ho => exact Or.inr ⟨o, ho, rfl, rfl, rfl⟩
  · next hn => exact Or.inl ⟨rfl, hn⟩

end Lookup

/-! ## Closing and writing -/

/-- A handle is closed. -/
def close [DecidableEq ι] [DecidableEq N] (s : NamedObjects ι N V) (h : ObjectHandle ι N) :
    NamedObjects ι N V where
  opened := s.opened.erase h
  contents := s.contents
  fresh := s.fresh
  nodup := s.nodup.erase h
  serial_lt h' hopen := s.serial_lt h' (List.mem_of_mem_erase hopen)
  object_lt h' hopen := s.object_lt h' (List.mem_of_mem_erase hopen)
  name_iff h' hopen h'' hopen' :=
    s.name_iff h' (List.mem_of_mem_erase hopen) h'' (List.mem_of_mem_erase hopen')

/-- The handles that are left. -/
lemma mem_close [DecidableEq ι] [DecidableEq N] {s : NamedObjects ι N V}
    {h h' : ObjectHandle ι N} : h' ∈ (s.close h).opened ↔ h' ≠ h ∧ h' ∈ s.opened :=
  s.nodup.mem_erase_iff

/-- The contents of an object are changed. -/
def write (s : NamedObjects ι N V) (o : ℕ) (v : V) : NamedObjects ι N V :=
  { s with contents := Function.update s.contents o v }

/-- An object is written to under its own name only. -/
lemma contents_write {s : NamedObjects ι N V} {h h' : ObjectHandle ι N} (hopen : h ∈ s.opened)
    (hopen' : h' ∈ s.opened) (hname : h'.name ≠ h.name) (v : V) :
    (s.write h.object v).contents h'.object = s.contents h'.object :=
  Function.update_of_ne (mt (s.name_iff h' hopen' h hopen).mpr hname) _ _

end NamedObjects
