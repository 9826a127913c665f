import LineSelect.Proofs.CheckedSteps
import LineSelect.Proofs.Reading

/-!
Checked reading. The text is bytes, and what is read is found by the number of bytes in front of it.
Each function has the name of the one that it is the checked form of, and has its results and faults
on every text that fits into the memory.
-/

namespace LineSelect.Checked

open LineSelect.Text

/-! ### Kinds of bytes -/

def isDigit (b : UInt8) : Bool :=
  '0'.toUInt8 ≤ b && b ≤ '9'.toUInt8

def isSignOrSpace (b : UInt8) : Bool :=
  b = ' '.toUInt8 || b = '+'.toUInt8 || b = '-'.toUInt8

theorem bytewise_isDigit : Bytewise isDigit Char.isDigit := by
  refine bytewise_of_ascii false ?_ ?_ ?_
  · intro c hc
    rw [Bool.eq_iff_iff]
    simp only [isDigit, Char.isDigit, UInt8.le_iff_toNat_le, toNat_toUInt8 hc, Bool.and_eq_true,
      decide_eq_true_eq]
    exact Iff.rfl
  · intro b hb
    have hnine : ('9'.toUInt8).toNat = 57 := by decide
    simp only [isDigit, UInt8.le_iff_toNat_le, hnine, Bool.and_eq_false_iff,
      decide_eq_false_iff_not]
    omega
  · intro c hc
    have hnine : ¬ c.val ≤ 57 := by
      rw [UInt32.le_iff_toNat_le]
      exact Nat.not_le_of_lt (Nat.lt_of_lt_of_le (by decide) hc)
    simp [Char.isDigit, hnine]

theorem countFront_isDigit {s : List Char} (short : byteLength s < sizeLimit) :
    countFront isDigit s = .ok (byteLength (leadingDigits s)) :=
  bytewise_isDigit.countFront_eq_ok short

theorem cut_leadingDigits (s : List Char) :
    cut s (byteLength (leadingDigits s)) = .ok (leadingDigits s, afterDigits s) :=
  cut_takeWhile Char.isDigit s

theorem bytewise_isSignOrSpace : Bytewise isSignOrSpace Address.isSignOrSpace :=
  ((bytewise_eq (by decide)).or (bytewise_eq (by decide))).or (bytewise_eq (by decide))

/-! ### The position -/

def findByte? (b : UInt8) (s : List Char) : Except Halt (Option Nat) := do
  let place ← countFront (· ≠ b) s
  return if place < (bytesOf s).length then some place else none

def readPattern? (body : List Char) : Except Halt (Option (String × List Char)) := do
  match ← findByte? '/'.toUInt8 body with
  | some 0 => return none
  | some place =>
    let (source, _) ← cut body place
    let (_, rest) ← cut body (← unsigned (place + 1 : ℕ))
    return some (String.ofList source, rest)
  | none => return if body = [] then none else some (String.ofList body, [])

def readPosition (s : List Char) : Except Halt (Position × List Char) := do
  let count ← countFront isDigit s
  if 0 < count then
    let (digits, rest) ← cut s count
    match boundedValue? Address.lineNumberLimit digits with
    | some number => return (.line number, rest)
    | none => throw (.fault (.invalidLineNumber (String.ofList digits)))
  else
    match s with
    | '/' :: body =>
      match ← readPattern? body with
      | some (source, rest) => return (.pattern source, rest)
      | none => return (.current, s)
    | '$' :: rest => return (.last, rest)
    | '.' :: rest => return (.current, rest)
    | _ => return (.current, s)

theorem findByte?_eq_ok {c : Char} {s : List Char} (hc : c.toNat < 128)
    (short : byteLength s < sizeLimit) :
    findByte? c.toUInt8 s = .ok (if s.dropWhile (· ≠ c) = [] then none
      else some (byteLength (s.takeWhile (· ≠ c)))) := by
  have hsplit := byteLength_append (s.takeWhile (· ≠ c)) (s.dropWhile (· ≠ c))
  rw [List.takeWhile_append_dropWhile] at hsplit
  rw [findByte?, (Bytewise.ne hc).countFront_eq_ok short, ok_bind, length_bytesOf]
  by_cases hrest : s.dropWhile (· ≠ c) = []
  · rw [if_pos hrest, if_neg (by rw [hsplit, hrest, byteLength_nil]; omega)]
    rfl
  · have := byteLength_pos_iff.mpr hrest
    rw [if_neg hrest, if_pos (by omega)]
    rfl

theorem readPattern?_eq_ok {body : List Char} (short : byteLength body < sizeLimit) :
    readPattern? body = .ok (Position.readPattern? body) := by
  have hbody : body.takeWhile (· ≠ '/') ++ body.dropWhile (· ≠ '/') = body :=
    List.takeWhile_append_dropWhile
  have hslash : ∀ c rest, body.dropWhile (· ≠ '/') = c :: rest → c = '/' := by
    intro c rest h
    have := List.head?_dropWhile_not (fun c => decide (c ≠ '/')) body
    rw [h] at this
    simpa using this
  rw [readPattern?, findByte?_eq_ok (by decide) short, Position.readPattern?]
  generalize body.takeWhile (· ≠ '/') = source at hbody ⊢
  generalize body.dropWhile (· ≠ '/') = after at hbody hslash ⊢
  obtain rfl := hbody
  -- Nothing is left after the pattern, or what is left starts with the slash that closes it.
  cases after with
  | nil => cases source <;> simp
  | cons c rest =>
      obtain rfl := hslash c rest rfl
      cases hplace : byteLength source with
      | zero =>
          have hnil : source = [] := by
            by_contra hne
            exact absurd hplace (byteLength_pos_iff.mpr hne).ne'
          simp [hnil]
      | succ n =>
          have hne : source ≠ [] := byteLength_pos_iff.mp (hplace ▸ n.succ_pos)
          have hfront : cut (source ++ '/' :: rest) (n + 1) = .ok (source, '/' :: rest) :=
            cut_eq_ok_iff.mpr ⟨rfl, hplace⟩
          -- The slash is one byte, so it is skipped by the next number.
          have hend : cut (source ++ '/' :: rest) (n + 1 + 1) = .ok (source ++ ['/'], rest) := by
            refine cut_eq_ok_iff.mpr ⟨by simp, ?_⟩
            rw [byteLength_append, hplace]
            rfl
          have hword : unsigned (n + 1 + 1 : ℕ) = .ok (n + 1 + 1) := by
            refine unsigned_eq_ok ?_
            rw [byteLength_append, hplace] at short
            omega
          simp only [List.cons_ne_nil, if_false, ok_bind, hfront, hword, hend, hne, List.drop_one,
            List.tail_cons]
          rfl

theorem readPosition_eq {s : List Char} (short : byteLength s < sizeLimit) :
    readPosition s = ofResult (Position.read s) := by
  unfold readPosition Position.read
  rw [countFront_isDigit short, ok_bind]
  by_cases hdigits : leadingDigits s = []
  · rw [if_neg (by simp [hdigits]), if_neg (not_not_intro hdigits)]
    split
    · next body =>
        have hbody : byteLength body < sizeLimit := by
          rw [byteLength_cons] at short
          omega
        simp only [readPattern?_eq_ok hbody, ok_bind]
        cases Position.readPattern? body <;> simp
    · rfl
    · rfl
    · simp
  · rw [if_pos (byteLength_pos_iff.mpr hdigits), if_pos hdigits, cut_leadingDigits]
    simp only [ok_bind]
    cases boundedValue? Address.lineNumberLimit (leadingDigits s) <;> simp

theorem byteLength_rest_of_readPosition {s rest : List Char} {position : Position}
    (h : Position.read s = .ok (position, rest)) : byteLength rest ≤ byteLength s := by
  obtain ⟨base, rfl, _⟩ | ⟨_, _, _, _, rfl⟩ := Position.exists_spelling_of_read h
  · rw [byteLength_append]
    omega
  · exact Nat.zero_le _

/-! ### The offset -/

def startsWith (c : Char) (s : List Char) : Bool :=
  (bytesOf s).head?.any (· = c.toUInt8)

def readSign (s : List Char) : Except Halt (Bool × List Char) := do
  if startsWith '+' s then
    let (_, rest) ← cut s 1
    return (false, rest)
  else if startsWith '-' s then
    let (_, rest) ← cut s 1
    return (true, rest)
  else return (false, s)

/-- A number with a sign before it: the number has to fit into a word, and so has its opposite. -/
def withSign (negative : Bool) (magnitude : Nat) : Except Halt Int := do
  let n ← signed magnitude
  if negative then signed (-n) else return n

def readNumber (whole s : List Char) : Except Halt (Option (Int × List Char)) := do
  let (negative, tail) ← readSign s
  let count ← countFront isDigit (dropBlanks tail)
  if count = 0 then return none
  else
    let (digits, rest) ← cut (dropBlanks tail) count
    match boundedValue? Address.offsetLimit digits with
    | some magnitude => return some (← withSign negative magnitude, rest)
    | none => throw (.fault (.invalidDelta (String.ofList whole)))

/-- What signs are worth, one line each, if they are all the same. -/
def signsOffset (whole : List Char) : List UInt8 → Except Halt Int
  | [] => return 0
  | first :: others =>
    if (first :: others).any (· ≠ first) then throw (.fault (.invalidDelta (String.ofList whole)))
    else withSign (first ≠ '+'.toUInt8) (first :: others).length

def readSigns (whole s : List Char) : Except Halt (Int × List Char) := do
  let count ← countFront isSignOrSpace s
  if count = 0 then return (0, s)
  else
    let (run, rest) ← cut s count
    return (← signsOffset whole ((bytesOf run).filter (· ≠ ' '.toUInt8)), rest)

def readOffset (whole s : List Char) : Except Halt (Int × List Char) := do
  match ← readNumber whole s with
  | some result => return result
  | none => readSigns whole s

theorem startsWith_eq {c : Char} (hc : c.toNat < 128) (s : List Char) :
    startsWith c s = s.head?.any (· = c) :=
  (bytewise_eq hc).head?_bytesOf s

theorem cut_sign (sign : Sign) (rest : List Char) :
    cut (sign.char :: rest) 1 = .ok ([sign.char], rest) :=
  cut_eq_ok_iff.mpr ⟨rfl, by cases sign <;> rfl⟩

theorem readSign_eq_ok (s : List Char) : readSign s = .ok (Address.readSign s) := by
  rw [readSign, startsWith_eq (by decide), startsWith_eq (by decide)]
  cases s with
  | nil => rfl
  | cons c rest =>
      by_cases hplus : c = '+'
      · subst hplus
        exact congrArg (Except.map fun parts => (false, parts.2)) (cut_sign .plus rest)
      by_cases hminus : c = '-'
      · subst hminus
        exact congrArg (Except.map fun parts => (true, parts.2)) (cut_sign .minus rest)
      rw [Address.readSign_of_ne]
      · simp [hplus, hminus]
      · rintro (_ | _) tail ⟨rfl, rfl⟩
        · exact hplus rfl
        · exact hminus rfl

theorem byteLength_rest_of_readSign (s : List Char) :
    byteLength (Address.readSign s).2 ≤ byteLength s := by
  unfold Address.readSign
  split <;> simp

theorem withSign_eq_ok {negative : Bool} {magnitude : Nat}
    (small : magnitude < Address.offsetLimit) :
    withSign negative magnitude = .ok (Address.signed negative magnitude) := by
  have hlow : leastLine = -(Address.offsetLimit : Int) := rfl
  have hhigh : greatestLine = (Address.offsetLimit : Int) - 1 := rfl
  rw [withSign, signed_eq_ok ⟨by omega, by omega⟩, ok_bind]
  cases negative with
  | false => rfl
  | true => exact signed_eq_ok ⟨by omega, by omega⟩

theorem readNumber_eq {whole s : List Char} (short : byteLength s < sizeLimit) :
    readNumber whole s = ofResult (Address.readNumber whole s) := by
  rw [readNumber, readSign_eq_ok, ok_bind, Address.readNumber]
  have hle := byteLength_rest_of_readSign s
  generalize Address.readSign s = found at hle ⊢
  obtain ⟨negative, tail⟩ := found
  have htail : byteLength (dropBlanks tail) < sizeLimit :=
    ((byteLength_dropWhile_le isBlank tail).trans hle).trans_lt short
  simp only [countFront_isDigit htail, ok_bind, cut_leadingDigits]
  by_cases hdigits : leadingDigits (dropBlanks tail) = []
  · simp [hdigits]
  · rw [if_neg (byteLength_pos_iff.mpr hdigits).ne', if_neg hdigits]
    cases hvalue : boundedValue? Address.offsetLimit (leadingDigits (dropBlanks tail)) with
    | none => simp
    | some magnitude =>
        obtain ⟨rfl, small⟩ := boundedValue?_eq_some_iff.mp hvalue
        simp [withSign_eq_ok small]

theorem utf8Size_of_isSignOrSpace {c : Char} (h : Address.isSignOrSpace c = true) :
    c.utf8Size = 1 := by
  simp only [Address.isSignOrSpace, Bool.or_eq_true, decide_eq_true_eq] at h
  obtain (rfl | rfl) | rfl := h <;> rfl

theorem byteLength_eq_length {s : List Char} (h : ∀ c ∈ s, c.utf8Size = 1) :
    byteLength s = s.length := by
  induction s with
  | nil => rfl
  | cons c s ih =>
      rw [List.forall_mem_cons] at h
      rw [byteLength_cons, h.1, ih h.2, List.length_cons, Nat.add_comm]

theorem bytesOf_sign_cons (sign : Sign) (s : List Char) :
    bytesOf (sign.char :: s) = sign.char.toUInt8 :: bytesOf s := by
  cases sign <;> rfl

theorem signsOffset_eq {whole others : List Char} {sign : Sign}
    (hsize : ∀ c ∈ others, c.utf8Size = 1) (small : others.length + 1 < Address.offsetLimit) :
    signsOffset whole (bytesOf (sign.char :: others)) =
      if (sign.char :: others).all (· = sign.char) then
        .ok (Address.signed (sign.char = '-') (others.length + 1))
      else .error (.fault (.invalidDelta (String.ofList whole))) := by
  have hbytes := bytesOf_sign_cons sign others
  have hlength : (bytesOf (sign.char :: others)).length = others.length + 1 := by
    rw [hbytes, List.length_cons, length_bytesOf, byteLength_eq_length hsize]
  have hmixed : (bytesOf (sign.char :: others)).any (· ≠ sign.char.toUInt8) =
      !(sign.char :: others).all (· = sign.char) := by
    rw [(Bytewise.ne (by cases sign <;> decide)).any_bytesOf, List.not_all_eq_any_not]
    simp only [decide_not]
  have hminus : decide (sign.char.toUInt8 ≠ '+'.toUInt8) = decide (sign.char = '-') := by
    cases sign <;> rfl
  -- The signs are compared and counted as bytes, so the list of bytes is folded again.
  rw [hbytes, signsOffset, ← hbytes, hlength, hmixed, hminus, withSign_eq_ok small]
  cases (sign.char :: others).all (· = sign.char) <;> rfl

theorem readSigns_eq {whole s : List Char} (short : byteLength s < sizeLimit) :
    readSigns whole s = ofResult (Address.readSigns whole s) := by
  have hle := byteLength_takeWhile_le Address.isSignOrSpace s
  have hrun : ∀ c ∈ s.takeWhile Address.isSignOrSpace, Address.isSignOrSpace c = true :=
    fun c => List.mem_takeWhile_imp
  have hsplit : s.takeWhile Address.isSignOrSpace ++ s.dropWhile Address.isSignOrSpace = s :=
    List.takeWhile_append_dropWhile
  rw [readSigns, bytewise_isSignOrSpace.countFront_eq_ok short, ok_bind, cut_takeWhile,
    Address.readSigns]
  generalize s.takeWhile Address.isSignOrSpace = run at hle hrun hsplit ⊢
  generalize s.dropWhile Address.isSignOrSpace = rest at hsplit ⊢
  by_cases hnil : run = []
  · obtain rfl := hnil
    simp [← hsplit]
  have hmem : ∀ c ∈ run.filter (· ≠ ' '), Address.isSignOrSpace c = true ∧ c ≠ ' ' := by
    intro c hc
    rw [List.mem_filter, decide_eq_true_eq] at hc
    exact ⟨hrun c hc.1, hc.2⟩
  have hcount : (run.filter (· ≠ ' ')).length ≤ run.length := List.length_filter_le _ _
  rw [byteLength_eq_length fun c hc => utf8Size_of_isSignOrSpace (hrun c hc)] at hle
  rw [if_neg (byteLength_pos_iff.mpr hnil).ne', ok_bind]
  simp only [(Bytewise.ne (c := ' ') (by decide)).filter_bytesOf]
  generalize run.filter (· ≠ ' ') = signs at hmem hcount ⊢
  cases signs with
  | nil => rfl
  | cons first others =>
      rw [List.forall_mem_cons] at hmem
      obtain ⟨sign, rfl⟩ := Address.exists_sign_of_isSignOrSpace hmem.1.1 hmem.1.2
      rw [signsOffset_eq (fun c hc => utf8Size_of_isSignOrSpace (hmem.2 c hc).1)
        (hcount.trans_lt (hle.trans_lt short))]
      simp only [List.length_cons]
      split <;> rfl

theorem readOffset_eq {whole s : List Char} (short : byteLength s < sizeLimit) :
    readOffset whole s = ofResult (Address.readOffset whole s) := by
  rw [readOffset, readNumber_eq short, Address.readOffset]
  cases Address.readNumber whole s with
  | error e => simp
  | ok found =>
      cases found with
      | none => simp [readSigns_eq short]
      | some result => simp

/-! ### Addresses and ranges -/

def readAddress (s : List Char) : Except Halt (Address × List Char) := do
  let (position, rest) ← readPosition (dropBlanks s)
  let (offset, rest) ← readOffset s (dropBlanks rest)
  return (⟨position, offset⟩, rest)

def parseAddress (expr : String) : Except Halt (Address × String) := do
  let (address, rest) ← readAddress expr.toList
  return (address, String.ofList rest)

def readRange (s : List Char) : Except Halt Range := do
  match ← readAddress s with
  | (start, []) => return ⟨start, none⟩
  | (start, c :: rest) =>
    match Separator.ofChar? c with
    | none => throw (.fault (.invalidRange (String.ofList s)))
    | some separator =>
      match ← readAddress rest with
      | (stop, []) => return ⟨start, some (separator, stop)⟩
      | (_, tail) => throw (.fault (.invalidRangeTail (String.ofList tail)))

def parseRange (expr : String) : Except Halt Range :=
  readRange expr.toList

theorem readAddress_eq {s : List Char} (short : byteLength s < sizeLimit) :
    readAddress s = ofResult (Address.read s) := by
  have hs : byteLength (dropBlanks s) < sizeLimit :=
    (byteLength_dropWhile_le isBlank s).trans_lt short
  rw [readAddress, readPosition_eq hs, Address.read]
  cases hposition : Position.read (dropBlanks s) with
  | error e => rfl
  | ok found =>
      obtain ⟨position, rest⟩ := found
      have hrest : byteLength (dropBlanks rest) < sizeLimit :=
        ((byteLength_dropWhile_le isBlank rest).trans
          (byteLength_rest_of_readPosition hposition)).trans_lt hs
      simp only [ofResult_ok, ok_bind, readOffset_eq hrest]
      cases Address.readOffset s (dropBlanks rest) <;> rfl

theorem byteLength_rest_of_readAddress {s rest : List Char} {address : Address}
    (h : Address.read s = .ok (address, rest)) : byteLength rest ≤ byteLength s := by
  obtain ⟨t, rfl, _⟩ | ⟨rfl, _⟩ := Address.exists_spelling_of_read h
  · rw [byteLength_append]
    omega
  · exact Nat.zero_le _

theorem readRange_eq {s : List Char} (short : byteLength s < sizeLimit) :
    readRange s = ofResult (Range.read s) := by
  rw [readRange, readAddress_eq short, Range.read]
  cases hstart : Address.read s with
  | error e => rfl
  | ok found =>
      obtain ⟨start, _ | ⟨c, rest⟩⟩ := found
      · rfl
      have hrest : byteLength rest < sizeLimit := by
        have := byteLength_rest_of_readAddress hstart
        rw [byteLength_cons] at this
        omega
      simp only [ofResult_ok, ok_bind]
      cases Separator.ofChar? c with
      | none => rfl
      | some separator =>
          simp only [readAddress_eq hrest]
          cases Address.read rest with
          | error e => rfl
          | ok found =>
              obtain ⟨stop, _ | ⟨d, tail⟩⟩ := found <;> rfl

theorem parseAddress_eq {expr : String} (short : expr.utf8ByteSize < sizeLimit) :
    parseAddress expr = ofResult (Address.parse expr) := by
  rw [utf8ByteSize_eq] at short
  rw [parseAddress, readAddress_eq short, Address.parse]
  cases Address.read expr.toList <;> rfl

theorem parseRange_eq {expr : String} (short : expr.utf8ByteSize < sizeLimit) :
    parseRange expr = ofResult (Range.parse expr) :=
  readRange_eq (utf8ByteSize_eq expr ▸ short)

end LineSelect.Checked
