import Mathlib.Data.List.TakeWhile
import Mathlib.Data.Nat.Bits
import LineSelect.Proofs.Canonical
import LineSelect.Selection
import LineSelect.Text.Utf8

/-!
Checked steps: the operations of a machine whose words have 64 bits and whose texts are bytes. A
step that has no result for some operands is checked, and traps on these: a number has to fit into
its word, a text is cut only between two characters, and an item of a list has to be there.

Scans over bytes stop between two characters if they are for bytes below 128, since no byte of a
longer character is one; so what such a scan counts is where a text can be cut. How much memory
there is for results is left open.
-/

namespace LineSelect.Checked

open LineSelect.Text

/-- Why a step has no result. -/
inductive Trap where
  /-- A number is outside the word that is to hold it. -/
  | overflow
  /-- A text is cut inside a character, or past its end. -/
  | badCut
  /-- A list has no item at a place. -/
  | badIndex
deriving DecidableEq, Repr

/-- How a computation ends without a result: with a fault that is reported, or in a trap. -/
inductive Halt where
  | fault (cause : SelectionError)
  | trap (cause : Trap)
deriving DecidableEq, Repr

/-- A result, or the report of a fault; never a trap. -/
def ofResult {α : Type} : Except SelectionError α → Except Halt α
  | .ok a => .ok a
  | .error e => .error (.fault e)

@[simp] theorem ofResult_ok {α : Type} (a : α) : ofResult (.ok a) = .ok a := rfl

@[simp] theorem ofResult_error {α : Type} (e : SelectionError) :
    ofResult (.error e : Except SelectionError α) = .error (.fault e) := rfl

theorem ofResult_ne_trap {α : Type} (r : Except SelectionError α) (cause : Trap) :
    ofResult r ≠ .error (.trap cause) := by
  cases r <;> simp

@[simp] theorem ok_bind {α β : Type} (a : α) (next : α → Except Halt β) :
    (Except.ok a >>= next) = next a := rfl

@[simp] theorem pure_eq_ok {α : Type} (a : α) : (pure a : Except Halt α) = .ok a := rfl

@[simp] theorem throw_eq_error {α : Type} (e : Halt) : (throw e : Except Halt α) = .error e := rfl

@[simp] theorem error_bind {α β : Type} (e : Halt) (next : α → Except Halt β) :
    (Except.error e >>= next) = .error e := rfl

/-! ### Words -/

/-- A number that a word with a sign can hold. -/
def IsWord (n : Int) : Prop :=
  leastLine ≤ n ∧ n ≤ greatestLine

instance (n : Int) : Decidable (IsWord n) :=
  inferInstanceAs (Decidable (_ ∧ _))

/-- A number in a word with a sign. -/
def signed (n : Int) : Except Halt Int :=
  if IsWord n then .ok n else .error (.trap .overflow)

/-- A number in a word without a sign. -/
def unsigned (n : Int) : Except Halt Nat :=
  if 0 ≤ n ∧ n < Address.lineNumberLimit then .ok n.toNat else .error (.trap .overflow)

theorem isWord_saturate (n : Int) : IsWord (saturate n) :=
  ⟨leastLine_le_saturate n, saturate_le_greatestLine n⟩

theorem isWord_of_nonneg {n : Int} (low : 0 ≤ n) (high : n ≤ greatestLine) : IsWord n :=
  ⟨Int.le_trans (by decide) low, high⟩

theorem signed_eq_ok {n : Int} (h : IsWord n) : signed n = .ok n :=
  if_pos h

theorem unsigned_eq_ok {n : Nat} (high : n ≤ sizeLimit) : unsigned n = .ok n := by
  have hlimit : sizeLimit < Address.lineNumberLimit := by decide
  rw [unsigned, if_pos (by omega), Int.toNat_natCast]

theorem unsigned_eq_ok_of_isWord {n : Int} (h : IsWord n) (low : 0 ≤ n) :
    unsigned n = .ok n.toNat := by
  have hlimit : greatestLine < Address.lineNumberLimit := by decide
  exact if_pos ⟨low, Int.lt_of_le_of_lt h.2 hlimit⟩

/-! ### Lists and texts -/

def item {α : Type} (l : List α) (i : Nat) : Except Halt α :=
  match l[i]? with
  | some a => .ok a
  | none => .error (.trap .badIndex)

theorem item_eq_ok {α : Type} {l : List α} {i : Nat} {a : α} (h : l[i]? = some a) :
    item l i = .ok a := by
  rw [item, h]

/-- The parts of a text before and after a number of bytes. -/
def cut : List Char → Nat → Except Halt (List Char × List Char)
  | s, 0 => .ok ([], s)
  | [], _ + 1 => .error (.trap .badCut)
  | c :: s, n + 1 =>
    if c.utf8Size ≤ n + 1 then
      match cut s (n + 1 - c.utf8Size) with
      | .error e => .error e
      | .ok (front, rest) => .ok (c :: front, rest)
    else .error (.trap .badCut)

theorem cut_cons {c : Char} {s front rest : List Char} {n : Nat}
    (h : cut s n = .ok (front, rest)) : cut (c :: s) (c.utf8Size + n) = .ok (c :: front, rest) := by
  obtain ⟨m, hm⟩ : ∃ m, c.utf8Size + n = m + 1 := ⟨c.utf8Size + n - 1, by
    have := c.utf8Size_pos
    omega⟩
  have hrest : m + 1 - c.utf8Size = n := by omega
  rw [hm, cut, if_pos (by omega), hrest, h]

theorem cut_eq_ok_iff {s front rest : List Char} {n : Nat} :
    cut s n = .ok (front, rest) ↔ s = front ++ rest ∧ byteLength front = n := by
  constructor
  · intro h
    fun_induction cut s n generalizing front rest with
    | case1 s =>
        obtain ⟨rfl, rfl⟩ := Prod.mk.inj (Except.ok.inj h)
        exact ⟨rfl, rfl⟩
    | case2 => cases h
    | case3 c s n hsize e hcut => cases h
    | case4 c s n hsize front' rest' hcut ih =>
        obtain ⟨rfl, rfl⟩ := Prod.mk.inj (Except.ok.inj h)
        obtain ⟨rfl, hlength⟩ := ih hcut
        exact ⟨rfl, by rw [byteLength_cons]; omega⟩
    | case5 => cases h
  · rintro ⟨rfl, rfl⟩
    induction front with
    | nil => cases rest <;> rfl
    | cons c front ih => exact cut_cons ih

example : cut ['é', 'a'] 1 = .error (.trap .badCut) := rfl

theorem cut_takeWhile (q : Char → Bool) (s : List Char) :
    cut s (byteLength (s.takeWhile q)) = .ok (s.takeWhile q, s.dropWhile q) :=
  cut_eq_ok_iff.mpr ⟨List.takeWhile_append_dropWhile.symm, rfl⟩

theorem byteLength_pos_iff {s : List Char} : 0 < byteLength s ↔ s ≠ [] := by
  cases s with
  | nil => simp
  | cons c s => simpa using Nat.add_pos_left c.utf8Size_pos _

theorem byteLength_takeWhile_le (q : Char → Bool) (s : List Char) :
    byteLength (s.takeWhile q) ≤ byteLength s := by
  have := byteLength_append (s.takeWhile q) (s.dropWhile q)
  rw [List.takeWhile_append_dropWhile] at this
  omega

theorem byteLength_dropWhile_le (q : Char → Bool) (s : List Char) :
    byteLength (s.dropWhile q) ≤ byteLength s := by
  have := byteLength_append (s.takeWhile q) (s.dropWhile q)
  rw [List.takeWhile_append_dropWhile] at this
  omega

/-! ### Bytes -/

def bytesOf (s : List Char) : List UInt8 :=
  s.flatMap String.utf8EncodeChar

@[simp] theorem bytesOf_nil : bytesOf [] = [] := rfl

@[simp] theorem bytesOf_cons (c : Char) (s : List Char) :
    bytesOf (c :: s) = String.utf8EncodeChar c ++ bytesOf s :=
  List.flatMap_cons

@[simp] theorem length_bytesOf (s : List Char) : (bytesOf s).length = byteLength s := by
  induction s with
  | nil => rfl
  | cons c s ih => simp [ih]

theorem utf8ByteSize_eq (s : String) : s.utf8ByteSize = byteLength s.toList := by
  have : (String.ofList s.toList).utf8ByteSize = (bytesOf s.toList).length := by
    rw [String.utf8ByteSize, String.toByteArray_ofList, List.utf8Encode, List.size_toByteArray,
      bytesOf]
  rwa [String.ofList_toList, length_bytesOf] at this

/-- The number of bytes at the front of a text that are of a kind. -/
def countFront (p : UInt8 → Bool) (s : List Char) : Except Halt Nat :=
  unsigned ((bytesOf s).takeWhile p).length

/-- A kind of bytes is a kind of characters: the bytes of a character are of the kind just if the
character is. -/
def Bytewise (p : UInt8 → Bool) (q : Char → Bool) : Prop :=
  ∀ c, ∀ b ∈ String.utf8EncodeChar c, p b = q c

theorem utf8Size_eq_one_iff {c : Char} : c.utf8Size = 1 ↔ c.toNat < 128 := by
  rw [Char.utf8Size_eq_one_iff, UInt32.le_iff_toNat_le]
  exact Nat.lt_succ_iff.symm

theorem high_bytes {c : Char} (h : c.utf8Size ≠ 1) :
    ∀ b ∈ String.utf8EncodeChar c, 128 ≤ b.toNat := by
  have hor : ∀ x y : UInt8, 128 ≤ y.toNat → 128 ≤ (x ||| y).toNat := by
    intro x y hy
    rw [UInt8.toNat_or]
    exact hy.trans Nat.right_le_or
  have hpos := c.utf8Size_pos
  have hle := c.utf8Size_le_four
  obtain hsize | hsize | hsize : c.utf8Size = 2 ∨ c.utf8Size = 3 ∨ c.utf8Size = 4 := by omega
  · rw [String.utf8EncodeChar_eq_cons_cons hsize]
    simp only [List.forall_mem_cons, List.not_mem_nil, false_implies, implies_true, and_true]
    exact ⟨hor _ _ (by decide), hor _ _ (by decide)⟩
  · rw [String.utf8EncodeChar_eq_cons_cons_cons hsize]
    simp only [List.forall_mem_cons, List.not_mem_nil, false_implies, implies_true, and_true]
    exact ⟨hor _ _ (by decide), hor _ _ (by decide), hor _ _ (by decide)⟩
  · rw [String.utf8EncodeChar_eq_cons_cons_cons_cons hsize]
    simp only [List.forall_mem_cons, List.not_mem_nil, false_implies, implies_true, and_true]
    exact ⟨hor _ _ (by decide), hor _ _ (by decide), hor _ _ (by decide), hor _ _ (by decide)⟩

theorem toNat_toUInt8 {c : Char} (hc : c.toNat < 128) : c.toUInt8.toNat = c.toNat :=
  Nat.mod_eq_of_lt (hc.trans (by decide))

theorem bytewise_of_ascii {p : UInt8 → Bool} {q : Char → Bool} (high : Bool)
    (ascii : ∀ c : Char, c.toNat < 128 → p c.toUInt8 = q c)
    (highByte : ∀ b, 128 ≤ b.toNat → p b = high) (highChar : ∀ c, 128 ≤ c.toNat → q c = high) :
    Bytewise p q := by
  intro c b hb
  by_cases hsize : c.utf8Size = 1
  · rw [String.utf8EncodeChar_eq_singleton hsize, List.mem_singleton] at hb
    exact hb ▸ ascii c (utf8Size_eq_one_iff.mp hsize)
  -- Every byte of a longer character has its highest bit set.
  · rw [highByte b (high_bytes hsize b hb), highChar c]
    exact Nat.le_of_not_lt (utf8Size_eq_one_iff.not.mp hsize)

theorem bytewise_eq {c : Char} (hc : c.toNat < 128) :
    Bytewise (fun b => decide (b = c.toUInt8)) (fun d => decide (d = c)) := by
  refine bytewise_of_ascii false ?_ ?_ ?_
  · intro d hd
    rw [decide_eq_decide, ← UInt8.toNat_inj, toNat_toUInt8 hd, toNat_toUInt8 hc, Char.toNat_inj]
  · intro b hb
    rw [decide_eq_false_iff_not]
    rintro rfl
    rw [toNat_toUInt8 hc] at hb
    omega
  · intro d hd
    rw [decide_eq_false_iff_not]
    rintro rfl
    omega

theorem exists_first_byte (c : Char) : ∃ b bs, String.utf8EncodeChar c = b :: bs :=
  List.exists_cons_of_ne_nil (by simp)

namespace Bytewise

variable {p p' : UInt8 → Bool} {q q' : Char → Bool}

protected theorem not (h : Bytewise p q) : Bytewise (fun b => !p b) (fun c => !q c) := by
  intro c b hb
  simp only [h c b hb]

protected theorem or (h : Bytewise p q) (h' : Bytewise p' q') :
    Bytewise (fun b => p b || p' b) (fun c => q c || q' c) := by
  intro c b hb
  simp only [h c b hb, h' c b hb]

theorem ne {c : Char} (hc : c.toNat < 128) :
    Bytewise (fun b => decide (b ≠ c.toUInt8)) (fun d => decide (d ≠ c)) := by
  simpa only [decide_not] using (bytewise_eq hc).not

theorem takeWhile_bytesOf (h : Bytewise p q) (s : List Char) :
    (bytesOf s).takeWhile p = bytesOf (s.takeWhile q) := by
  induction s with
  | nil => rfl
  | cons c s ih =>
      cases hq : q c with
      | true =>
          have hall : ∀ b ∈ String.utf8EncodeChar c, p b = true := fun b hb => (h c b hb).trans hq
          rw [bytesOf_cons, List.takeWhile_append_of_pos hall, ih, List.takeWhile_cons_of_pos hq,
            bytesOf_cons]
      | false =>
          obtain ⟨b, bs, hbytes⟩ := exists_first_byte c
          have hb : p b = false := (h c b (hbytes ▸ List.mem_cons_self)).trans hq
          rw [bytesOf_cons, hbytes, List.cons_append, List.takeWhile_cons_of_neg (by simp [hb]),
            List.takeWhile_cons_of_neg (by simp [hq]), bytesOf_nil]

theorem filter_bytesOf (h : Bytewise p q) (s : List Char) :
    (bytesOf s).filter p = bytesOf (s.filter q) := by
  induction s with
  | nil => rfl
  | cons c s ih =>
      rw [bytesOf_cons, List.filter_append, ih]
      cases hq : q c with
      | true =>
          rw [List.filter_cons_of_pos hq, bytesOf_cons,
            List.filter_eq_self.mpr fun b hb => (h c b hb).trans hq]
      | false =>
          rw [List.filter_cons_of_neg (by simp [hq]), List.filter_eq_nil_iff.mpr, List.nil_append]
          intro b hb
          simp [h c b hb, hq]

theorem any_bytesOf (h : Bytewise p q) (s : List Char) : (bytesOf s).any p = s.any q := by
  induction s with
  | nil => rfl
  | cons c s ih =>
      have hany : (String.utf8EncodeChar c).any p = q c := by
        obtain ⟨b, bs, hbytes⟩ := exists_first_byte c
        rw [Bool.eq_iff_iff, List.any_eq_true]
        constructor
        · rintro ⟨b, hb, hp⟩
          rwa [← h c b hb]
        · intro hq
          have hb : b ∈ String.utf8EncodeChar c := hbytes ▸ List.mem_cons_self
          exact ⟨b, hb, (h c b hb).trans hq⟩
      rw [bytesOf_cons, List.any_append, List.any_cons, hany, ih]

theorem head?_bytesOf (h : Bytewise p q) (s : List Char) :
    (bytesOf s).head?.any p = s.head?.any q := by
  cases s with
  | nil => rfl
  | cons c s =>
      obtain ⟨b, bs, hbytes⟩ := exists_first_byte c
      rw [bytesOf_cons, hbytes, List.cons_append]
      exact h c b (hbytes ▸ List.mem_cons_self)

theorem countFront_eq_ok (h : Bytewise p q) {s : List Char}
    (short : byteLength s < sizeLimit) :
    countFront p s = .ok (byteLength (s.takeWhile q)) := by
  have hle := byteLength_takeWhile_le q s
  rw [countFront, h.takeWhile_bytesOf, length_bytesOf, unsigned_eq_ok (hle.trans short.le)]

end Bytewise

end LineSelect.Checked
