import Mathlib.Data.List.SplitBy
import LineSelect.Pattern

/-!
The names of groups. Whatever pattern is compiled, the names of its groups are made of the
characters that such names may have. This is followed through the readers of the grammar and
through the reduced form of expressions, which loses groups but makes none.
-/

namespace LineSelect.Pattern

open LineSelect.Pattern.Reading

/-! ### What readers yield -/

/-- Every value that a reader gives satisfies `P`, whatever is left to read. -/
def Yields {α : Type} (P : α → Prop) (m : Reading α) : Prop :=
  ∀ (before after : Reader) (a : α), m.run before = .ok (a, after) → P a

namespace Yields

variable {α β : Type} {P : α → Prop} {Q : β → Prop} {m : Reading α} {f : α → Reading β}

theorem pure {a : α} (h : P a) : Yields P (Pure.pure a) := by
  intro before after b hb
  obtain ⟨rfl, -⟩ := Prod.mk.inj (Except.ok.inj hb)
  exact h

theorem refuse : Yields P Reading.refuse := by
  intro before after a h
  cases h

theorem bind (hm : Yields P m) (hf : ∀ a, P a → Yields Q (f a)) : Yields Q (m >>= f) := by
  intro before after b h
  rw [StateT.run_bind] at h
  cases hrun : m.run before with
  | error e =>
      rw [hrun] at h
      cases h
  | ok result =>
      rw [hrun] at h
      exact hf result.1 (hm before result.2 result.1 hrun) result.2 after b h

theorem after (hf : ∀ a, Yields Q (f a)) : Yields Q (m >>= f) :=
  bind (P := fun _ => True) (fun _ _ _ _ => trivial) fun a _ => hf a

theorem refuse_bind : Yields Q ((Reading.refuse : Reading α) >>= f) :=
  bind (P := fun _ => False) refuse fun _ h => h.elim

end Yields

/-! ### Groups of expressions in reduced form -/

namespace Regex

theorem groups_repeated_subset (min : ℕ) (max : Option ℕ) (greedy : Bool) (body : Regex) :
    (repeated min max greedy body).groups ⊆ body.groups := by
  unfold repeated
  dsimp only
  split
  · exact List.nil_subset _
  · exact List.Subset.refl _
  · exact List.Subset.refl _

theorem groups_eq_flatMap_branches (r : Regex) : r.groups = r.branches.flatMap groups := by
  induction r with
  | alternative a b iha ihb => simp [groups, branches, iha, ihb]
  | _ => simp [groups, branches]

theorem groups_ofItems (rs : List Regex) : (ofItems rs).groups = rs.flatMap groups := by
  fun_induction ofItems rs with
  | case1 => rfl
  | case2 r => simp
  | case3 r rest _ ih => simp [groups, ih]

theorem groups_ofBranches (rs : List Regex) : (ofBranches rs).groups = rs.flatMap groups := by
  fun_induction ofBranches rs with
  | case1 => rfl
  | case2 r => simp
  | case3 r rest _ ih => simp [groups, ih]

theorem groups_choice_subset (rs : List Regex) : (choice rs).groups ⊆ rs.flatMap groups := by
  have hbranches : rs.flatMap groups = (rs.flatMap branches).flatMap groups := by
    rw [List.flatMap_assoc]
    exact List.flatMap_congr fun r _ => groups_eq_flatMap_branches r
  rw [hbranches, choice]
  split
  · next r hr =>
    rw [hr]
    simp
  · split
    · exact List.nil_subset _
    · rw [groups_ofBranches]
      exact List.Subset.refl _

theorem foldl_commonFront_isPrefix {α : Type} [DecidableEq α] (first : List α)
    (others : List (List α)) : List.IsPrefix (others.foldl commonFront first) first := by
  induction others generalizing first with
  | nil => exact List.prefix_refl first
  | cons other others ih =>
      exact (ih (commonFront first other)).trans (commonFront_isPrefix first other).1

theorem exists_mem_of_mem_sharedFront {alternatives : List (List (List Regex))}
    {part : List Regex} (h : part ∈ sharedFront alternatives) :
    ∃ alternative ∈ alternatives, part ∈ alternative := by
  cases alternatives with
  | nil => cases h
  | cons first others =>
      rw [sharedFront] at h
      split at h
      · exact ⟨first, by simp, (foldl_commonFront_isPrefix first others).subset h⟩
      · cases h

theorem groups_alternation_subset (rs : List Regex) :
    (alternation rs).groups ⊆ rs.flatMap groups := by
  -- Both the shared front and what follows it consist of items of the branches.
  have hitem : ∀ branch ∈ rs.flatMap branches, ∀ part ∈ branch.parts, ∀ item ∈ part,
      item.groups ⊆ rs.flatMap groups := by
    intro branch hbranch part hpart item hmem group hgroup
    obtain ⟨r, hr, hbranch⟩ := List.mem_flatMap.mp hbranch
    have hitems : item ∈ branch.items := by
      rw [← List.flatten_splitBy (fun a b => a.isLiteral && b.isLiteral) branch.items]
      exact List.mem_flatten.mpr ⟨part, hpart, hmem⟩
    have hinner : group ∈ branch.groups := by
      rw [groups_eq_flatMap_items]
      exact List.mem_flatMap.mpr ⟨item, hitems, hgroup⟩
    refine List.mem_flatMap.mpr ⟨r, hr, ?_⟩
    rw [groups_eq_flatMap_branches]
    exact List.mem_flatMap.mpr ⟨branch, hbranch, hinner⟩
  intro group hgroup
  rw [alternation, groups_sequence, List.flatMap_append, List.flatMap_singleton] at hgroup
  rcases List.mem_append.mp hgroup with hfront | hrest
  · obtain ⟨item, hmem, hgroup⟩ := List.mem_flatMap.mp hfront
    obtain ⟨part, hpart, hmem⟩ := List.mem_flatten.mp hmem
    obtain ⟨alternative, halternative, hpart⟩ := exists_mem_of_mem_sharedFront hpart
    obtain ⟨branch, hbranch, rfl⟩ := List.mem_map.mp halternative
    exact hitem branch hbranch part hpart item hmem hgroup
  · obtain ⟨rest, hmem, hgroup⟩ := List.mem_flatMap.mp (groups_choice_subset _ hrest)
    obtain ⟨parts, hparts, rfl⟩ := List.mem_map.mp hmem
    obtain ⟨alternative, halternative, rfl⟩ := List.mem_map.mp hparts
    obtain ⟨branch, hbranch, rfl⟩ := List.mem_map.mp halternative
    rw [groups_ofItems] at hgroup
    obtain ⟨item, hmem, hgroup⟩ := List.mem_flatMap.mp hgroup
    obtain ⟨part, hpart, hmem⟩ := List.mem_flatten.mp hmem
    exact hitem branch hbranch part (List.drop_subset _ _ hpart) item hmem hgroup

end Regex

/-! ### Names -/

/-- A name of characters that group names are made of. -/
def IsGroupName (name : String) : Prop :=
  ∀ c ∈ name.toList, isGroupNameChar false c = true

/-- Every group of an expression that has a name has a proper one. -/
def Regex.ProperlyNamed (r : Regex) : Prop :=
  ∀ index name, (index, some name) ∈ r.groups → IsGroupName name

namespace Regex.ProperlyNamed

theorem of_groups_eq_nil {r : Regex} (h : r.groups = []) : r.ProperlyNamed := by
  intro index name hname
  rw [h] at hname
  cases hname

theorem of_subset {r : Regex} {rs : List Regex} (hsubset : r.groups ⊆ rs.flatMap groups)
    (hrs : ∀ part ∈ rs, part.ProperlyNamed) : r.ProperlyNamed := by
  intro index name hname
  obtain ⟨part, hpart, hgroup⟩ := List.mem_flatMap.mp (hsubset hname)
  exact hrs part hpart index name hgroup

theorem group {index : ℕ} {name : Option String} {body : Regex}
    (hname : ∀ text, name = some text → IsGroupName text) (hbody : body.ProperlyNamed) :
    (Regex.group index name body).ProperlyNamed := by
  intro i text hmem
  rcases List.mem_cons.mp hmem with heq | hmem
  · exact hname text (Prod.mk.inj heq).2.symm
  · exact hbody i text hmem

end Regex.ProperlyNamed

theorem isGroupNameChar_of_first {c : Char} (h : isGroupNameChar true c = true) :
    isGroupNameChar false c = true := by
  simp only [isGroupNameChar, Bool.not_true, Bool.false_and, Bool.or_false] at h
  simp [isGroupNameChar, h]

theorem yields_readGroupName : Yields IsGroupName readGroupName := by
  unfold readGroupName
  refine .after fun text => ?_
  dsimp only
  split
  · exact .refuse
  · refine .after fun _ => ?_
    split
    · exact .refuse
    · next first others hname =>
      split
      · exact .refuse_bind
      · next haccepted =>
        refine .after fun reader => ?_
        split
        · exact .refuse_bind
        · refine .pure fun c hc => ?_
          rw [String.toList_ofList, hname] at hc
          simp only [Bool.not_eq_true, Bool.not_eq_false', Bool.and_eq_true,
            List.all_eq_true] at haccepted
          rcases List.mem_cons.mp hc with rfl | hc
          · exact isGroupNameChar_of_first haccepted.1
          · exact haccepted.2 c hc

theorem properlyNamed_closeSequence {items : List Item}
    (h : ∀ item ∈ items, item.regex.ProperlyNamed) :
    (closeSequence items).value.ProperlyNamed := by
  intro index name hname
  rw [closeSequence, Regex.groups_sequence] at hname
  obtain ⟨r, hr, hgroup⟩ := List.mem_flatMap.mp hname
  obtain ⟨item, hitem, rfl⟩ := List.mem_map.mp hr
  exact h item (List.mem_reverse.mp hitem) index name hgroup

theorem properlyNamed_closeAlternatives {branches : List (Nested Regex)}
    (h : ∀ branch ∈ branches, branch.value.ProperlyNamed) :
    (closeAlternatives branches).value.ProperlyNamed := by
  refine Regex.ProperlyNamed.of_subset (Regex.groups_alternation_subset _) ?_
  intro r hr
  obtain ⟨branch, hbranch, rfl⟩ := List.mem_map.mp hr
  exact h branch hbranch

/-- Every item of a list is properly named. -/
def ItemsNamed (items : List Item) : Prop :=
  ∀ item ∈ items, item.regex.ProperlyNamed

theorem ItemsNamed.cons {item : Item} {items : List Item} (hitem : item.regex.ProperlyNamed)
    (hitems : ItemsNamed items) : ItemsNamed (item :: items) :=
  List.forall_mem_cons.mpr ⟨hitem, hitems⟩

theorem yields_repeatLast {items : List Item} {bounds : ℕ × Option ℕ} (h : ItemsNamed items) :
    Yields ItemsNamed (repeatLast items bounds) := by
  unfold repeatLast
  refine .after fun next => ?_
  cases items with
  | nil =>
      dsimp only
      split
      · exact .after fun _ => .refuse
      · exact .refuse
  | cons last earlier =>
      obtain ⟨hlast, hearlier⟩ := List.forall_mem_cons.mp h
      have hrepeated (greedy : Bool) : ItemsNamed
          (⟨Regex.repeated bounds.1 bounds.2 greedy last.regex, last.depth + 1, true⟩ ::
            earlier) := by
        refine .cons (fun index name hname => ?_) hearlier
        exact hlast index name (Regex.groups_repeated_subset _ _ _ _ hname)
      dsimp only
      split
      · refine .after fun _ => ?_
        split
        · exact .refuse_bind
        · exact .after fun _ => .pure (hrepeated _)
      · split
        · exact .refuse_bind
        · exact .after fun _ => .pure (hrepeated _)

theorem yields_literalRegex (c : Char) (isByte : Bool) :
    Yields Regex.ProperlyNamed (literalRegex c isByte) := by
  unfold literalRegex
  refine .after fun flags => ?_
  dsimp only
  split
  · exact .refuse_bind
  · exact .after fun _ => .pure (.of_groups_eq_nil rfl)

theorem yields_pieceRegex (piece : Piece) : Yields Regex.ProperlyNamed (pieceRegex piece) := by
  cases piece with
  | literal c isByte => exact yields_literalRegex c isByte
  | set s => exact .after fun _ => .pure (.of_groups_eq_nil rfl)
  | anchor condition => exact .pure (.of_groups_eq_nil rfl)

theorem yields_dotRegex : Yields Regex.ProperlyNamed dotRegex := by
  unfold dotRegex
  refine .after fun flags => ?_
  dsimp only
  split
  · exact .refuse_bind
  · exact .pure (.of_groups_eq_nil rfl)

/-- The name that a group opens with, if it has one, is proper. -/
def GroupOpening.ProperlyNamed : GroupOpening → Prop
  | .capturing name => ∀ text, name = some text → IsGroupName text
  | .plain | .flagsOnly => True

theorem yields_readOpening : Yields GroupOpening.ProperlyNamed readOpening := by
  have named : Yields GroupOpening.ProperlyNamed (do
      return GroupOpening.capturing (some (← readGroupName))) := by
    refine yields_readGroupName.bind fun name hname => .pure ?_
    rintro text ⟨rfl⟩
    exact hname
  unfold readOpening
  refine .after fun text => ?_
  split
  · exact .refuse
  · exact .refuse
  · exact .refuse
  · exact .refuse
  · exact .after fun _ => named
  · exact .after fun _ => named
  · refine .after fun flags => .after fun changed => ?_
    split
    · exact .refuse
    · refine .after fun _ => ?_
      split
      · exact .pure trivial
      · split
        · exact .refuse
        · exact .pure trivial
  · refine .pure ?_
    rintro text ⟨⟩

/-- What the readers of the grammar yield with some fuel: expressions with proper names. -/
structure GrammarNamed (fuel : ℕ) : Prop where
  alternatives : Yields (fun branches => ∀ branch ∈ branches, branch.value.ProperlyNamed)
    (readAlternatives fuel)
  sequence : ∀ items, ItemsNamed items →
    Yields (fun branch => branch.value.ProperlyNamed) (readSequence fuel items)
  group : Yields (fun item => item.regex.ProperlyNamed) (readGroup fuel)
  body : ∀ saved, Yields (fun body => body.value.ProperlyNamed) (readBody fuel saved)

theorem GrammarNamed.sequence_succ {fuel : ℕ} (h : GrammarNamed fuel) {items : List Item}
    (hitems : ItemsNamed items) :
    Yields (fun branch => branch.value.ProperlyNamed) (readSequence (fuel + 1) items) := by
  have close := properlyNamed_closeSequence hitems
  have push (item : Item) (hitem : item.regex.ProperlyNamed) :=
    h.sequence (item :: items) (hitems.cons hitem)
  have again (bounds : ℕ × Option ℕ) : Yields (fun branch => branch.value.ProperlyNamed)
      (do readSequence fuel (← repeatLast items bounds)) :=
    (yields_repeatLast hitems).bind h.sequence
  rw [readSequence]
  refine .after fun _ => .after fun next => ?_
  split
  · exact .pure close
  · exact .pure close
  · exact .pure close
  · exact .after fun _ => .after fun _ => h.group.bind push
  · exact .after fun _ => .after fun _ => .after fun _ => push _ (.of_groups_eq_nil rfl)
  · exact .after fun _ => again _
  · exact .after fun _ => again _
  · exact .after fun _ => again _
  · exact .after fun bounds => .after fun _ => again bounds
  · exact .after fun _ => yields_dotRegex.bind fun _ hdot => push _ hdot
  · exact .after fun _ => .after fun _ => push _ (.of_groups_eq_nil rfl)
  · exact .after fun _ => .after fun _ => push _ (.of_groups_eq_nil rfl)
  · exact .after fun piece => (yields_pieceRegex piece).bind fun _ hpiece => push _ hpiece
  · next c _ _ _ _ _ _ _ _ _ _ _ _ =>
    exact .after fun _ => (yields_literalRegex c false).bind fun _ hliteral => push _ hliteral

theorem grammarNamed (fuel : ℕ) : GrammarNamed fuel := by
  induction fuel with
  | zero =>
      refine ⟨?_, fun items _ => ?_, ?_, fun saved => ?_⟩
      · rw [readAlternatives]
        exact .refuse
      · rw [readSequence]
        exact .refuse
      · rw [readGroup]
        exact .refuse
      · rw [readBody]
        exact .refuse
  | succ fuel ih =>
      refine ⟨?_, fun items hitems => ?_, ?_, fun saved => ?_⟩
      · rw [readAlternatives]
        refine ih.sequence [] (by simp [ItemsNamed]) |>.bind fun first hfirst => ?_
        refine .after fun next => ?_
        split
        · refine .after fun _ => ?_
          refine ih.alternatives.bind fun rest hrest => ?_
          exact .pure (List.forall_mem_cons.mpr ⟨hfirst, hrest⟩)
        · exact .pure (by simpa using hfirst)
      · exact ih.sequence_succ hitems
      · rw [readGroup]
        refine .after fun saved => ?_
        refine yields_readOpening.bind fun opening hopening => ?_
        cases opening with
        | flagsOnly => exact .pure (.of_groups_eq_nil rfl)
        | capturing name =>
            refine .after fun reader => .after fun _ => ?_
            refine (ih.body saved).bind fun body hbody => ?_
            exact .pure (.group hopening hbody)
        | plain => exact (ih.body saved).bind fun body hbody => .pure hbody
      · rw [readBody]
        refine ih.alternatives.bind fun branches hbranches => ?_
        refine .after fun _ => .after fun _ => ?_
        exact .pure (properlyNamed_closeAlternatives hbranches)

theorem properlyNamed_of_parse {source : String} {regex : Regex}
    (h : Regex.parse source = .ok regex) : regex.ProperlyNamed := by
  unfold Regex.parse at h
  dsimp only at h
  cases hrun : (readAlternatives (4 * source.toList.length + 4)).run { rest := source.toList } with
  | error e =>
      rw [hrun] at h
      cases h
  | ok result =>
      rw [hrun] at h
      have hbranches := (grammarNamed _).alternatives _ result.2 result.1 hrun
      simp only [bind, Except.bind] at h
      split at h
      · obtain rfl := Except.ok.inj h
        exact properlyNamed_closeAlternatives hbranches
      · cases h

theorem mem_of_mem_groupTable {groups : List (ℕ × Option String)} {name : String}
    (h : some name ∈ groupTable groups) : ∃ index, (index, some name) ∈ groups := by
  obtain ⟨index, -, hname⟩ := List.mem_map.mp h
  obtain ⟨before, after, rfl, -⟩ :=
    List.lookup_eq_some_iff.mp (Option.join_eq_some_iff.mp hname)
  exact ⟨index, by simp⟩

theorem isGroupName_of_compile {source name : String} {pattern : Pattern}
    (h : compile source = .ok pattern) (hname : some name ∈ pattern.groupNames) :
    IsGroupName name := by
  unfold compile at h
  cases hparse : Regex.parse source with
  | error e =>
      rw [hparse] at h
      cases h
  | ok regex =>
      rw [hparse] at h
      simp only [bind, Except.bind] at h
      split at h
      · cases h
      · obtain rfl := Except.ok.inj h
        obtain ⟨index, hgroup⟩ := mem_of_mem_groupTable hname
        exact properlyNamed_of_parse hparse index name hgroup

end LineSelect.Pattern
