import Mathlib.Data.Nat.Basic
import Mathlib.Order.Basic
import LineSelect.Pattern

/-!
Where matches lie. Of the machine that is built for an expression, only the instruction that notes
the end of the whole match leads to acceptance. A thread never moves back, so a match ends where its
thread is accepted, and starts at a place that the thread noted before: the match lies in the text,
after the place where the search began, and does not end before it starts.
-/

namespace LineSelect.Pattern

/-- The instruction goes on, but not to acceptance. -/
def Instruction.Continues : Instruction → Prop
  | .take _ next | .check _ next | .save _ next => next ≠ 0
  | .split preferred other => preferred ≠ 0 ∧ other ≠ 0
  | .accept => False

namespace Machine

/-! ### Building -/

/-- The machine `m'` has the instructions of `m`, and those after them continue. -/
structure Grows (m m' : Machine) : Prop where
  size_le : m.size ≤ m'.size
  old : ∀ i < m.size, m'[i]? = m[i]?
  new : ∀ i instruction, m.size ≤ i → m'[i]? = some instruction → instruction.Continues

namespace Grows

variable {m m' m'' : Machine}

theorem refl (m : Machine) : m.Grows m := by
  refine ⟨le_rfl, fun _ _ => rfl, fun i instruction hi h => ?_⟩
  rw [Array.getElem?_eq_none hi] at h
  cases h

theorem trans (first : m.Grows m') (second : m'.Grows m'') : m.Grows m'' := by
  refine ⟨first.size_le.trans second.size_le, fun i hi => ?_, fun i instruction hi h => ?_⟩
  · rw [second.old i (hi.trans_le first.size_le), first.old i hi]
  · by_cases hnew : m'.size ≤ i
    · exact second.new i instruction hnew h
    · rw [second.old i (not_le.mp hnew)] at h
      exact first.new i instruction hi h

theorem push {instruction : Instruction} (continues : instruction.Continues) :
    m.Grows (m.push instruction) := by
  refine ⟨by simp, fun i hi => ?_, fun i other hi h => ?_⟩
  · rw [Array.getElem?_push, if_neg (by omega)]
  · rw [Array.getElem?_push] at h
    split at h
    · obtain rfl := Option.some.inj h
      exact continues
    · rw [Array.getElem?_eq_none hi] at h
      cases h

theorem set {free instruction : Instruction} (later : Grows (m.push free) m')
    (continues : instruction.Continues) : m.Grows (m'.set! m.size instruction) := by
  have hsize := later.size_le
  rw [Array.size_push] at hsize
  refine ⟨by simp; omega, fun i hi => ?_, fun i other hi h => ?_⟩
  · rw [Array.set!_eq_setIfInBounds, Array.getElem?_setIfInBounds_ne (by omega),
      later.old i (by simp; omega), Array.getElem?_push, if_neg (by omega)]
  · rw [Array.set!_eq_setIfInBounds, Array.getElem?_setIfInBounds] at h
    split at h
    · split at h
      · obtain rfl := Option.some.inj h
        exact continues
      · cases h
    · exact later.new i other (by simp; omega) h

end Grows

/-- Adding instructions by `build` makes the machine grow and gives a place to go on from, if there
is such a place to lead to. -/
def Builds (build : Machine → Nat → Machine × Nat) : Prop :=
  ∀ m next, 0 < m.size → next ≠ 0 → m.Grows (build m next).1 ∧ (build m next).2 ≠ 0

theorem grows_emit {m : Machine} (hm : 0 < m.size) (instruction : Instruction)
    (continues : instruction.Continues) :
    m.Grows (m.emit instruction).1 ∧ (m.emit instruction).2 ≠ 0 :=
  ⟨.push continues, hm.ne'⟩

theorem continues_branch (greedy : Bool) {into past : Nat} (hinto : into ≠ 0) (hpast : past ≠ 0) :
    (branch greedy into past).Continues := by
  cases greedy
  · exact ⟨hpast, hinto⟩
  · exact ⟨hinto, hpast⟩

variable {build : Machine → Nat → Machine × Nat}

theorem builds_chain (hbuild : Builds build) (n : Nat) : Builds (chain build n) := by
  induction n with
  | zero =>
      intro m next hm hnext
      exact ⟨.refl m, hnext⟩
  | succ n ih =>
      intro m next hm hnext
      obtain ⟨hgrows, hstart⟩ := hbuild m next hm hnext
      obtain ⟨hmore, hfirst⟩ := ih _ _ (hm.trans_le hgrows.size_le) hstart
      exact ⟨hgrows.trans hmore, hfirst⟩

theorem builds_optionalRounds (hbuild : Builds build) (greedy : Bool) {past : Nat}
    (hpast : past ≠ 0) (n : Nat) : Builds (optionalRounds build greedy past n) := by
  induction n with
  | zero =>
      intro m next hm hnext
      exact ⟨.refl m, hnext⟩
  | succ n ih =>
      intro m next hm hnext
      obtain ⟨hgrows, hstart⟩ := hbuild m next hm hnext
      have hm' := hm.trans_le hgrows.size_le
      obtain ⟨hemit, hdecision⟩ := grows_emit hm' _ (continues_branch greedy hstart hpast)
      obtain ⟨hmore, hfirst⟩ := ih _ _ (hm'.trans_le hemit.size_le) hdecision
      exact ⟨(hgrows.trans hemit).trans hmore, hfirst⟩

theorem grows_loop (hbuild : Builds build) (greedy : Bool) {m : Machine} {next : Nat}
    (hm : 0 < m.size) (hnext : next ≠ 0) :
    m.Grows (loop build greedy m next).1 ∧ (loop build greedy m next).2.1 ≠ 0 ∧
      (loop build greedy m next).2.2 ≠ 0 := by
  obtain ⟨hgrows, hstart⟩ := hbuild (m.push .accept) m.size (by simp) hm.ne'
  exact ⟨hgrows.set (continues_branch greedy hstart hnext), hstart, hm.ne'⟩

theorem builds_add (r : Regex) : Builds (add r) := by
  induction r with
  | empty =>
      intro m next hm hnext
      exact ⟨.refl m, hnext⟩
  | chars alphabet set =>
      intro m next hm hnext
      exact grows_emit hm _ hnext
  | anchor condition =>
      intro m next hm hnext
      exact grows_emit hm _ hnext
  | concat first second ihFirst ihSecond =>
      intro m next hm hnext
      obtain ⟨hsecond, hmiddle⟩ := ihSecond m next hm hnext
      obtain ⟨hfirst, hstart⟩ := ihFirst _ _ (hm.trans_le hsecond.size_le) hmiddle
      exact ⟨hsecond.trans hfirst, hstart⟩
  | alternative first second ihFirst ihSecond =>
      intro m next hm hnext
      obtain ⟨hfirst, hleft⟩ := ihFirst m next hm hnext
      have hm' := hm.trans_le hfirst.size_le
      obtain ⟨hsecond, hright⟩ := ihSecond _ next hm' hnext
      obtain ⟨hemit, hstart⟩ :=
        grows_emit (hm'.trans_le hsecond.size_le) (.split _ _) ⟨hleft, hright⟩
      exact ⟨(hfirst.trans hsecond).trans hemit, hstart⟩
  | repetition min max greedy body ih =>
      intro m next hm hnext
      cases max with
      | some max =>
          rw [add]
          obtain ⟨hoptional, hstart⟩ :=
            builds_optionalRounds ih greedy hnext (max - min) m next hm hnext
          obtain ⟨hchain, hfirst⟩ :=
            builds_chain ih min _ _ (hm.trans_le hoptional.size_le) hstart
          exact ⟨hoptional.trans hchain, hfirst⟩
      | none =>
          obtain ⟨hloop, hstart, hdecision⟩ := grows_loop ih greedy hm hnext
          have hm' := hm.trans_le hloop.size_le
          cases min with
          | zero =>
              rw [add]
              dsimp only
              split
              · exact ⟨hloop, hdecision⟩
              · obtain ⟨hemit, hfirst⟩ := grows_emit hm' _ (continues_branch greedy hstart hnext)
                exact ⟨hloop.trans hemit, hfirst⟩
          | succ n =>
              rw [add]
              obtain ⟨hchain, hfirst⟩ := builds_chain ih n _ _ hm' hstart
              exact ⟨hloop.trans hchain, hfirst⟩
  | group index name body ih =>
      intro m next hm hnext
      obtain ⟨hclosing, hplace⟩ := grows_emit hm (.save (2 * index + 1) next) hnext
      have hm' := hm.trans_le hclosing.size_le
      obtain ⟨hbody, hstart⟩ := ih _ _ hm' hplace
      obtain ⟨hopening, hfirst⟩ :=
        grows_emit (hm'.trans_le hbody.size_le) (.save (2 * index) _) hstart
      exact ⟨(hclosing.trans hbody).trans hopening, hfirst⟩

/-- Acceptance is instruction 0, and it is only reached by noting the end of the whole match. -/
structure ClosesLast (m : Machine) : Prop where
  accept : ∀ i : Nat, m[i]? = some .accept → i = 0
  others : ∀ (i : Nat) (instruction : Instruction), m[i]? = some instruction →
    instruction ≠ .accept → instruction ≠ .save 1 0 → instruction.Continues

theorem closesLast_ofRegex (r : Regex) :
    (ofRegex r).1.ClosesLast ∧ (ofRegex r).2 ≠ 0 := by
  let front : Machine := #[.accept, .save 1 0]
  obtain ⟨hbody, hstart⟩ := builds_add r front 1 (by decide) (by decide)
  obtain ⟨hopening, hfirst⟩ :=
    grows_emit (hbody.size_le.trans_lt' (by decide)) (.save 0 (add r front 1).2) hstart
  have hgrows : front.Grows (ofRegex r).1 := hbody.trans hopening
  refine ⟨⟨fun i hi => ?_, fun i instruction hi hopen hinner => ?_⟩, hfirst⟩
  · by_contra hne
    by_cases hsize : i < front.size
    · rw [hgrows.old i hsize] at hi
      obtain rfl : i = 1 := by
        change i < 2 at hsize
        omega
      cases hi
    · exact hgrows.new i _ (not_lt.mp hsize) hi
  · by_cases hsize : i < front.size
    · rw [hgrows.old i hsize] at hi
      change i < 2 at hsize
      obtain rfl | rfl : i = 0 ∨ i = 1 := by omega
      · exact absurd (Option.some.inj hi).symm hopen
      · exact absurd (Option.some.inj hi).symm hinner
    · exact hgrows.new i _ (not_lt.mp hsize) hi

/-! ### Running -/

end Machine

/-- The thread and its notes lie between two places, no note is ahead of the thread, and a thread
before acceptance has just noted the end of the whole match. -/
structure Thread.Within (low high : Nat) (t : Thread) : Prop where
  low_le : low ≤ t.place
  le_high : t.place ≤ high
  noted : ∀ note ∈ t.slots, low ≤ note.2 ∧ note.2 ≤ t.place
  closed : t.instruction = 0 → t.slots.lookup 1 = some t.place

namespace Machine

section Running

variable {m : Machine} {text : Array Char} {low : Nat}

theorem within_step (closes : m.ClosesLast) {t t' : Thread} (within : t.Within low text.size)
    (h : t' ∈ m.step text t) : t'.Within low text.size := by
  have hlow := within.low_le
  unfold step at h
  split at h
  · cases h
  · cases h
  · next set next hinstruction =>
    have hnext : next ≠ 0 := closes.others _ _ hinstruction nofun nofun
    split at h
    · next c hc =>
      split at h
      · obtain rfl := List.mem_singleton.mp h
        obtain ⟨hplace, -⟩ := Array.getElem?_eq_some_iff.mp hc
        refine ⟨by dsimp only; omega, hplace, fun note hnote => ?_, fun hzero => absurd hzero hnext⟩
        have := within.noted note hnote
        dsimp only
        omega
      · cases h
    · cases h
  · next condition next hinstruction =>
    have hnext : next ≠ 0 := closes.others _ _ hinstruction nofun nofun
    split at h
    · obtain rfl := List.mem_singleton.mp h
      exact ⟨hlow, within.le_high, within.noted, fun hzero => absurd hzero hnext⟩
    · cases h
  · next preferred other hinstruction =>
    have hboth : preferred ≠ 0 ∧ other ≠ 0 := closes.others _ _ hinstruction nofun nofun
    rcases List.mem_cons.mp h with rfl | h
    · exact ⟨hlow, within.le_high, within.noted, fun hzero => absurd hzero hboth.1⟩
    · obtain rfl := List.mem_singleton.mp h
      exact ⟨hlow, within.le_high, within.noted, fun hzero => absurd hzero hboth.2⟩
  · next slot next hinstruction =>
    obtain rfl := List.mem_singleton.mp h
    refine ⟨hlow, within.le_high, fun note hnote => ?_, fun hzero => ?_⟩
    · rcases List.mem_cons.mp hnote with rfl | hnote
      · exact ⟨hlow, le_rfl⟩
      · exact within.noted note hnote
    · by_cases hlast : slot = 1
      · simp [hlast]
      · have hnext : next ≠ 0 :=
          closes.others _ _ hinstruction nofun fun h => hlast (Instruction.save.inj h).1
        exact absurd hzero hnext

theorem exists_thread_of_follow (closes : m.ClosesLast) {fuel : Nat} {threads : List Thread}
    {visited seen : Std.TreeSet Nat} {slots : Slots}
    (within : ∀ t ∈ threads, t.Within low text.size)
    (h : m.follow text fuel threads visited = (some slots, seen)) :
    ∃ t : Thread, t.Within low text.size ∧ t.instruction = 0 ∧ t.slots = slots := by
  -- A step keeps threads within, so whatever is followed is; only instruction 0 accepts.
  fun_induction follow m text fuel threads visited with
  | case1 => cases h
  | case2 => cases h
  | case3 fuel t threads visited hvisited ih =>
      exact ih (fun t' ht' => within t' (List.mem_cons_of_mem t ht')) h
  | case4 fuel t threads visited hvisited haccepting =>
      obtain ⟨hslots, -⟩ := Prod.mk.inj h
      refine ⟨t, within t List.mem_cons_self, closes.accept _ ?_, Option.some.inj hslots⟩
      unfold isAccepting at haccepting
      split at haccepting
      · assumption
      · cases haccepting
  | case5 fuel t threads visited hvisited haccepting ih =>
      refine ih (fun t' ht' => ?_) h
      rcases List.mem_append.mp ht' with ht' | ht'
      · exact within_step closes (within t List.mem_cons_self) ht'
      · exact within t' (List.mem_cons_of_mem t ht')

theorem exists_thread_of_search (closes : m.ClosesLast) {start count : Nat} (hstart : start ≠ 0)
    {place : Nat} {visited : Std.TreeSet Nat} {slots : Slots} (hlow : low ≤ place)
    (hcount : place + count ≤ text.size + 1)
    (h : m.search start text count place visited = some slots) :
    ∃ t : Thread, t.Within low text.size ∧ t.instruction = 0 ∧ t.slots = slots := by
  fun_induction search m start text count place visited with
  | case1 => cases h
  | case2 count place visited found seen hfollow =>
      obtain rfl := Option.some.inj h
      refine exists_thread_of_follow closes (fun t ht => ?_) hfollow
      obtain rfl := List.mem_singleton.mp ht
      refine ⟨hlow, by dsimp only; omega, fun note hnote => (by cases hnote), fun hzero => ?_⟩
      exact absurd hzero hstart
  | case3 count place visited seen hfollow ih => exact ih (by omega) (by omega) h

end Running

end Machine

end LineSelect.Pattern

namespace LineSelect

open LineSelect.Pattern

namespace Match

/-- The match lies between two places of a text, and does not end before it starts. -/
structure Within (low high : Nat) (m : Match) : Prop where
  low_le : low ≤ m.start
  start_le : m.start ≤ m.stop
  le_high : m.stop ≤ high

end Match

namespace Pattern

theorem closesLast_of_compile {source : String} {p : Pattern} (h : compile source = .ok p) :
    p.machine.ClosesLast ∧ p.start ≠ 0 := by
  unfold compile at h
  cases hparse : Regex.parse source with
  | error e =>
      rw [hparse] at h
      cases h
  | ok regex =>
      rw [hparse] at h
      simp only [bind, Except.bind] at h
      split at h
      · cases h
      · obtain rfl := Except.ok.inj h
        exact Machine.closesLast_ofRegex regex

section Compiled

variable {source : String} {p : Pattern} {text : List Char} {place : Nat} {m : Match}

theorem within_of_find? (compiled : compile source = .ok p) (h : p.find? text place = some m) :
    m.Within place text.length := by
  obtain ⟨closes, hstart⟩ := closesLast_of_compile compiled
  unfold find? at h
  obtain ⟨slots, hslots, h⟩ := Option.bind_eq_some_iff.mp h
  obtain ⟨start, hfirst, h⟩ := Option.bind_eq_some_iff.mp h
  obtain ⟨stop, hlast, h⟩ := Option.bind_eq_some_iff.mp h
  obtain rfl := Option.some.inj h
  by_cases hplace : place ≤ text.length
  · obtain ⟨t, within, hzero, rfl⟩ := Machine.exists_thread_of_search closes hstart le_rfl
      (by simp; omega) hslots
    rw [within.closed hzero] at hlast
    obtain rfl := Option.some.inj hlast
    obtain ⟨before, after, hsplit, -⟩ := List.lookup_eq_some_iff.mp hfirst
    obtain ⟨hlow, hhigh⟩ := within.noted (0, start) (by rw [hsplit]; simp)
    have hsize := within.le_high
    rw [List.size_toArray] at hsize
    exact ⟨hlow, hhigh, hsize⟩
  · have hcount : text.toArray.size + 1 - place = 0 := by
      rw [List.size_toArray]
      omega
    rw [hcount] at hslots
    cases hslots

theorem findNext?_none_eq : p.findNext? text place none = p.find? text place := by
  unfold findNext?
  cases p.find? text place with
  | none => rfl
  | some m => simp

theorem within_of_findNext? (compiled : compile source = .ok p) {last : Option Nat}
    (h : p.findNext? text place last = some m) :
    m.Within place text.length ∧ (last = some place → place < m.stop) := by
  unfold findNext? at h
  split at h
  · cases h
  · next found hfound =>
    have within := within_of_find? compiled hfound
    have hlow := within.low_le
    have hstart := within.start_le
    split at h
    · have next := within_of_find? compiled h
      have hnext := next.low_le
      have hstop := next.start_le
      exact ⟨⟨by omega, hstop, next.le_high⟩, fun _ => by omega⟩
    · next hempty =>
      obtain rfl := Option.some.inj h
      refine ⟨within, ?_⟩
      rintro rfl
      simp only [Match.isEmpty, Bool.and_eq_true, beq_iff_eq, Option.some.injEq, not_and] at hempty
      omega

end Compiled

end Pattern

end LineSelect
