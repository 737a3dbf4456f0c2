import NestLint.Proofs.Nesting.Links
import NestLint.Proofs.Nesting.Meaning
import NestLint.Proofs.SelectorList.Escaping

/-!
What nesting makes of lists of selectors. A nested rule stands for each of its selectors with each
selector of the rule around it in the place of the ampersand. Nesting cuts each selector at the longest
selector that the other rule has for it, so the selectors that were there before are among those that the
rewritten ones stand for; but where the other rule has selectors of several lengths, all but the longest
give new ones. The rewritten selectors are written as one text. A cut can open a comma, a quote or a bracket
that was closed before, and then the text is not read back as the same list.
-/

namespace NestLint

def Kind.nested? : Kind → Option Text
  | .rule selector => some selector
  | .atRule _ params _ => some params
  | _ => none

/-- Each text of `inner` with each text of `outer` in the place of the ampersand. -/
def SelectorList.resolve (outer inner : List Text) : List Text :=
  inner.flatMap fun selector => outer.map fun around => Text.substitute around selector

def Sheet.nestedLast? (s : Sheet) (outer : NodeId) : Option Text :=
  (s.lastChild outer).bind fun nested => (s.kind nested).nested?

/-- The selectors that the last child of a rule stands for. -/
def Sheet.resolvedLast (s : Sheet) (outer : NodeId) : List Text :=
  match s.nestedLast? outer with
  | some inner => SelectorList.resolve ((s.selectors? outer).getD []) (SelectorList.split inner)
  | none => []

namespace Nesting

/-- Going through a list with a comparison that decides what to keep ends with an entry that no other one
exceeds. -/
theorem foldl_keep (takes atMost : Text → Text → Prop) [DecidableRel takes] (refl : ∀ a, atMost a a)
    (trans : ∀ a b c, atMost a b → atMost b c → atMost a c) (taken : ∀ a b, takes a b → atMost a b)
    (kept : ∀ a b, ¬takes a b → atMost b a) (rest : List Text) (best : Text) :
    rest.foldl (fun best text => if takes best text then text else best) best ∈ best :: rest ∧
      ∀ other ∈ best :: rest,
        atMost other (rest.foldl (fun best text => if takes best text then text else best) best) := by
  induction rest generalizing best with
  | nil => simp [refl]
  | cons text rest ih =>
    rw [List.foldl_cons]
    split
    next isTaken =>
      obtain ⟨listed, most⟩ := ih text
      refine ⟨List.mem_cons_of_mem _ listed, List.forall_mem_cons.mpr ⟨?_, most⟩⟩
      exact trans _ _ _ (taken _ _ isTaken) (most text List.mem_cons_self)
    next isKept =>
      obtain ⟨listed, most⟩ := ih best
      have own := most best List.mem_cons_self
      refine ⟨?_, List.forall_mem_cons.mpr ⟨own, List.forall_mem_cons.mpr ⟨?_, fun other among => ?_⟩⟩⟩
      · rcases List.mem_cons.mp listed with same | later
        · rw [same]
          exact List.mem_cons_self
        · exact List.mem_cons_of_mem _ (List.mem_cons_of_mem _ later)
      · exact trans _ _ _ (kept _ _ isKept) own
      · exact most other (List.mem_cons_of_mem _ among)

theorem longest_of_cons (text : Text) (rest : List Text) :
    longest (text :: rest) ∈ text :: rest ∧
      ∀ other ∈ text :: rest, other.length ≤ (longest (text :: rest)).length := by
  have start : longest (text :: rest) =
      rest.foldl (fun best text => if best.length ≤ text.length then text else best) text := by
    simp [longest]
  rw [start]
  exact foldl_keep (fun best text => best.length ≤ text.length) (fun a b => a.length ≤ b.length)
    (fun _ => Nat.le_refl _) (fun _ _ _ => Nat.le_trans) (fun _ _ longer => longer)
    (fun _ _ => Nat.le_of_not_le) rest text

theorem shortest?_of_cons (text : Text) (rest : List Text) :
    ∃ least ∈ text :: rest, shortest? (text :: rest) = some least ∧
      ∀ other ∈ text :: rest, least.length ≤ other.length := by
  obtain ⟨listed, least⟩ := foldl_keep (fun best text => text.length < best.length)
    (fun a b => b.length ≤ a.length) (fun _ => Nat.le_refl _)
    (fun _ _ _ first second => Nat.le_trans second first) (fun _ _ => Nat.le_of_lt)
    (fun _ _ => Nat.le_of_not_lt) rest text
  exact ⟨_, listed, rfl, least⟩

end Nesting

namespace SelectorList

theorem mem_resolve {outer inner : List Text} {selector : Text} :
    selector ∈ resolve outer inner ↔
      ∃ nested ∈ inner, ∃ around ∈ outer, Text.substitute around nested = selector := by
  simp only [resolve, List.mem_flatMap, List.mem_map]

/-- The selector is cut at one of the outer ones: that one gives it back in the place of the ampersand, and any
other one gives a shorter text. -/
structure CutAt (outer : List Text) (selector nested : Text) : Prop where
  full : nested ≠ []
  trimmed : nested.trim = nested
  back : ∃ own ∈ outer, Text.substitute own nested = selector ∧
    ∀ other ∈ outer, other = own ∨ (Text.substitute other nested).length < selector.length

/-- When each selector is cut at one of the outer ones, resolving gives the selectors back exactly when the
outer ones are all the same. -/
theorem resolve_map_iff {first second : List Text} (some : first ≠ []) {nest : Text → Text}
    (cut : ∀ selector ∈ first, CutAt second selector (nest selector)) :
    (∀ selector ∈ first, selector ∈ resolve second (first.map nest)) ∧
      ((∀ selector, selector ∈ resolve second (first.map nest) ↔ selector ∈ first) ↔
        ∀ a ∈ second, ∀ b ∈ second, a = b) := by
  have among : ∀ selector ∈ first, selector ∈ resolve second (first.map nest) := by
    intro selector listed
    obtain ⟨own, isOwn, back, -⟩ := (cut selector listed).back
    exact mem_resolve.mpr ⟨nest selector, List.mem_map_of_mem listed, own, isOwn, back⟩
  refine ⟨among, fun same => ?_, fun alone selector => ⟨fun listed => ?_, among selector⟩⟩
  · -- A selector of least length leaves no room for a shorter one.
    obtain ⟨least, isLeast, minimal⟩ : ∃ least ∈ first, ∀ other ∈ first, least.length ≤ other.length := by
      cases first with
      | nil => exact absurd rfl some
      | cons text rest =>
        obtain ⟨least, isLeast, -, minimal⟩ := Nesting.shortest?_of_cons text rest
        exact ⟨least, isLeast, minimal⟩
    obtain ⟨own, -, -, others⟩ := (cut least isLeast).back
    have only : ∀ other ∈ second, other = own := by
      intro other listed
      rcases others other listed with same | shorter
      · exact same
      · have back := (same _).mp
          (mem_resolve.mpr ⟨nest least, List.mem_map_of_mem isLeast, other, listed, rfl⟩)
        exact absurd (minimal _ back) (Nat.not_le.mpr shorter)
    intro a listedA b listedB
    rw [only a listedA, only b listedB]
  · obtain ⟨_, isNested, around, isAround, rfl⟩ := mem_resolve.mp listed
    obtain ⟨original, isOriginal, rfl⟩ := List.mem_map.mp isNested
    obtain ⟨own, isOwn, back, -⟩ := (cut original isOriginal).back
    rw [alone around isAround own isOwn, back]
    exact isOriginal

end SelectorList

namespace Nesting

open Sheet SelectorList

def Relation.nest : Relation → List Text → Text → Text
  | .descendant, others => nestDescendant others
  | .ancestor, others => nestAncestor others
  | .media, _ => id

/-- None of the rewritten selectors is split, and each but the last leaves nothing open. -/
def Relation.ReadsBack (relation : Relation) (first second : List Text) : Prop :=
  (∀ a ∈ first, Unsplit {} (relation.nest second a)) ∧ ∀ a ∈ first.dropLast, Closed (relation.nest second a)

instance (relation : Relation) (first second : List Text) : Decidable (relation.ReadsBack first second) :=
  inferInstanceAs (Decidable (_ ∧ _))

variable {accepts : Text → Bool} {first second : List Text}

theorem exists_of_allPairs {leftOver : Text → Text → Option Text}
    (pairs : allPairs accepts leftOver first second = true) {a b : Text} (isFirst : a ∈ first)
    (isSecond : b ∈ second) : ∃ rest, leftOver a b = some rest := by
  rw [allPairs, List.all_eq_true] at pairs
  have row := List.all_eq_true.mp (pairs b isSecond) a isFirst
  obtain ⟨rest, isRest, -⟩ := (Option.any_eq_true _ _).mp row
  exact ⟨rest, isRest⟩

theorem strip_of_suffix? {inner outer rest : Text} (found : suffix? inner outer = some rest) :
    Text.strip outer inner = some rest ∧ rest ≠ [] := by
  unfold suffix? at found
  split at found
  next c tail stripped =>
    split at found
    next => cases found
    next =>
      cases found
      exact ⟨stripped, by simp⟩
  next => cases found

theorem nestDescendant_of_allPairs (pairs : allPairs accepts suffix? first second = true)
    (some : second ≠ []) {a : Text} (isFirst : a ∈ first) :
    ∃ own ∈ second, ∃ rest, rest ≠ [] ∧ a = own ++ rest ∧ nestDescendant second a = '&' :: rest ∧
      ∀ other ∈ second, other.length ≤ own.length ∧ other <+: a := by
  have starts : ∀ b ∈ second, ∃ rest, Text.strip b a = Option.some rest ∧ rest ≠ [] := by
    intro b isSecond
    obtain ⟨rest, isRest⟩ := exists_of_allPairs pairs isFirst isSecond
    exact ⟨rest, strip_of_suffix? isRest⟩
  have all : (second.filter fun candidate => (Text.strip candidate a).isSome) = second := by
    apply List.filter_eq_self.mpr
    intro b isSecond
    obtain ⟨rest, isRest, -⟩ := starts b isSecond
    rw [isRest]
    rfl
  cases second with
  | nil => exact absurd rfl some
  | cons b bs =>
    obtain ⟨isOwn, most⟩ := longest_of_cons b bs
    obtain ⟨rest, isRest, visible⟩ := starts _ isOwn
    have whole := Text.strip_eq_some isRest
    refine ⟨_, isOwn, rest, visible, whole, ?_, fun other listed => ⟨most other listed, ?_⟩⟩
    · rw [nestDescendant, all]
      conv_lhs => rw [whole]
      rw [List.drop_left]
    · obtain ⟨rest', isRest', -⟩ := starts other listed
      exact ⟨rest', (Text.strip_eq_some isRest').symm⟩

theorem eq_of_lead? {outer inner lead : Text} (found : lead? outer inner = some lead) :
    outer = lead ++ ' ' :: inner := by
  obtain ⟨body, stripped, blank⟩ := Option.bind_eq_some_iff.mp found
  rw [Text.stripEnd_eq_some stripped, Text.stripEnd_eq_some blank, List.append_assoc,
    List.singleton_append]

theorem nestAncestor_of_allPairs (pairs : allPairs accepts lead? first second = true)
    (some : second ≠ []) {a : Text} (isFirst : a ∈ first) :
    ∃ own ∈ second, ∃ lead, lead? a own = Option.some lead ∧ a = lead ++ ' ' :: own ∧
      nestAncestor second a = lead ++ [' ', '&'] ∧
      ∀ other ∈ second, ∃ longer, a = longer ++ ' ' :: other ∧ lead.length ≤ longer.length := by
  have ends : ∀ b ∈ second, ∃ lead, lead? a b = Option.some lead := fun b isSecond =>
    exists_of_allPairs pairs isFirst isSecond
  cases leads : second.filterMap (lead? a) with
  | nil =>
    cases second with
    | nil => exact absurd rfl some
    | cons b bs =>
      obtain ⟨lead, isLead⟩ := ends b List.mem_cons_self
      rw [List.filterMap_cons_some isLead] at leads
      cases leads
  | cons l ls =>
    obtain ⟨lead, listed, isLeast, least⟩ := shortest?_of_cons l ls
    rw [← leads] at listed isLeast least
    obtain ⟨own, isOwn, isLead⟩ := List.mem_filterMap.mp listed
    refine ⟨own, isOwn, lead, isLead, eq_of_lead? isLead, ?_, fun other isOther => ?_⟩
    · rw [nestAncestor, isLeast]
    · obtain ⟨longer, isLonger⟩ := ends other isOther
      exact ⟨longer, eq_of_lead? isLonger, least longer (List.mem_filterMap.mpr ⟨other, isOther, isLonger⟩)⟩

section lists

variable {text text' : Text}

theorem isSeparator_of_separates {separator : Text} (separates : Separates separator text)
    (several : 1 < (split text).length) : IsSeparator separator := by
  obtain ⟨present, isPresent⟩ := exists_separator several
  rw [separates present isPresent]
  exact isSeparator_of_separator? isPresent

theorem trim_nestDescendant (pairs : allPairs accepts suffix? (split text) (split text') = true)
    {a : Text} (listed : a ∈ split text) :
    (nestDescendant (split text') a).trim = nestDescendant (split text') a := by
  obtain ⟨own, -, rest, -, whole, isNested, -⟩ := nestDescendant_of_allPairs pairs (split_ne_nil text') listed
  have same := (of_mem_split listed).1
  rw [isNested, Text.trim_cons rest (by decide), Text.trimEnd_of_append (same.trans whole)]

theorem trim_nestAncestor (pairs : allPairs accepts lead? (split text) (split text') = true)
    {a : Text} (listed : a ∈ split text) :
    (nestAncestor (split text') a).trim = nestAncestor (split text') a := by
  obtain ⟨own, -, lead, -, whole, isNested, -⟩ := nestAncestor_of_allPairs pairs (split_ne_nil text') listed
  have same := (of_mem_split listed).1
  rw [isNested]
  cases lead with
  | nil => exact absurd (Text.visible_of_trim (same.trans whole)) (by decide)
  | cons c lead =>
    rw [List.cons_append, Text.trim_cons _ (Text.visible_of_trim (same.trans whole))]
    have ends : Text.trimEnd (lead ++ [' '] ++ ['&']) = lead ++ [' '] ++ ['&'] :=
      Text.trimEnd_concat _ (by decide)
    rw [List.append_assoc] at ends
    exact congrArg (c :: ·) ends

theorem cutAt_nestDescendant (pairs : allPairs accepts suffix? (split text) (split text') = true)
    (plain : '&' ∉ text) {a : Text} (listed : a ∈ split text) :
    CutAt (split text') a (nestDescendant (split text') a) := by
  obtain ⟨own, isOwn, rest, -, whole, isNested, others⟩ :=
    nestDescendant_of_allPairs pairs (split_ne_nil text') listed
  have absent : '&' ∉ rest := fun inside =>
    plain ((of_mem_split listed).2.2 '&' (whole ▸ List.mem_append_right own inside))
  have resolved : ∀ around, Text.substitute around (nestDescendant (split text') a) = around ++ rest := by
    intro around
    rw [isNested, ← List.singleton_append, Text.substitute_append, Text.substitute_ampersand,
      Text.substitute_of_not_mem absent]
  refine ⟨?_, trim_nestDescendant pairs listed, own, isOwn, by rw [resolved, ← whole],
    fun other isOther => ?_⟩
  · rw [isNested]
    exact List.cons_ne_nil _ _
  obtain ⟨most, starts⟩ := others other isOther
  rcases Nat.lt_or_eq_of_le most with shorter | equal
  · right
    have lengths := congrArg List.length whole
    rw [List.length_append] at lengths
    rw [resolved, List.length_append]
    omega
  · left
    exact (List.prefix_of_prefix_length_le starts ⟨rest, whole.symm⟩ most).eq_of_length equal

theorem cutAt_nestAncestor (pairs : allPairs accepts lead? (split text) (split text') = true)
    (plain : '&' ∉ text) {a : Text} (listed : a ∈ split text) :
    CutAt (split text') a (nestAncestor (split text') a) := by
  obtain ⟨own, isOwn, lead, -, whole, isNested, others⟩ :=
    nestAncestor_of_allPairs pairs (split_ne_nil text') listed
  have absent : '&' ∉ lead := fun inside =>
    plain ((of_mem_split listed).2.2 '&' (whole ▸ List.mem_append_left _ inside))
  have resolved : ∀ around, Text.substitute around (nestAncestor (split text') a) = lead ++ ' ' :: around := by
    intro around
    rw [isNested, Text.substitute_append, Text.substitute_of_not_mem absent]
    simp [Text.substitute]
  refine ⟨?_, trim_nestAncestor pairs listed, own, isOwn, by rw [resolved, ← whole],
    fun other isOther => ?_⟩
  · rw [isNested]
    simp
  obtain ⟨longer, wholeOther, least⟩ := others other isOther
  have lengths := congrArg List.length whole
  have lengthsOther := congrArg List.length wholeOther
  rw [List.length_append, List.length_cons] at lengths lengthsOther
  rcases Nat.lt_or_eq_of_le least with shorter | equal
  · right
    rw [resolved, List.length_append, List.length_cons]
    omega
  · left
    rw [whole] at wholeOther
    exact ((List.cons.inj (List.append_inj wholeOther equal).2).2).symm

theorem split_join_nest_iff {separator : Text} (separates : Separates separator text) {nest : Text → Text}
    (cut : ∀ a ∈ split text, CutAt (split text') a (nest a)) :
    split (Text.join separator ((split text).map nest)) = (split text).map nest ↔
      (∀ a ∈ split text, Unsplit {} (nest a)) ∧ ∀ a ∈ (split text).dropLast, Closed (nest a) := by
  rw [split_join_iff, ← List.map_dropLast, List.forall_mem_map, List.forall_mem_map]
  · intro several
    rw [List.length_map] at several
    exact isSeparator_of_separates separates several
  · rw [ne_eq, List.map_eq_nil_iff]
    exact split_ne_nil text
  · exact List.forall_mem_map.mpr fun a listed => (cut a listed).full
  · exact List.forall_mem_map.mpr fun a listed => (cut a listed).trimmed

end lists

section sheets

variable {s : Sheet} {rule1 rule2 : NodeId} {text text' : Text}

theorem stored_of_selector? {id : NodeId} {selector : Text} (found : s.selector? id = some selector) :
    id < s.nodes.size := by
  by_contra outside
  simp [Sheet.selector?, Sheet.kind, node, Array.getD, outside, Node.ofLabel, Kind.selector?] at found

theorem lastChild_append {parent child : NodeId} (stored : parent < s.nodes.size) :
    (s.append parent child).lastChild parent = some child := by
  have room : parent < (((s.remove child).borrowBefore parent child).setParent child
      (some parent)).nodes.size := by
    rw [size_setParent, size_borrowBefore, size_remove]
    exact stored
  rw [lastChild, append, children_setChildren _ _ _ _ room, if_pos rfl, List.getLast?_concat]

theorem kind_foldl_append (s : Sheet) (parent x : NodeId) (ids : List NodeId) :
    (ids.foldl (fun sheet child => sheet.append parent child) s).kind x = s.kind x ∧
      (ids.foldl (fun sheet child => sheet.append parent child) s).nodes.size = s.nodes.size := by
  induction ids generalizing s with
  | nil => exact ⟨rfl, rfl⟩
  | cons id rest ih =>
    obtain ⟨kinds, size⟩ := ih (s.append parent id)
    exact ⟨kinds.trans (kind_append s parent id x), size.trans (size_append s parent id)⟩

theorem nestedLast?_eq {outer nested : NodeId} (last : s.lastChild outer = some nested) :
    s.nestedLast? outer = (s.kind nested).nested? := by
  rw [nestedLast?, last, Option.bind_some]

theorem allPairs_of_holds {leftOver : Text → Text → Option Text} (kind1 : s.kind rule1 = .rule text)
    (kind2 : s.kind rule2 = .rule text')
    (holds : (match ruleSelectors? s rule1, ruleSelectors? s rule2 with
      | some first, some second => allPairs accepts leftOver first second
      | _, _ => false) = true) : allPairs accepts leftOver (split text) (split text') = true := by
  split at holds
  next first second isFirst isSecond =>
    obtain ⟨_, own, rfl, -⟩ := rule_of_ruleSelectors isFirst
    obtain ⟨_, other, rfl, -⟩ := rule_of_ruleSelectors isSecond
    cases kind1.symm.trans own
    cases kind2.symm.trans other
    exact holds
  next => cases holds

theorem ne_of_allPairs {leftOver : Text → Text → Option Text} (irreflexive : ∀ a, leftOver a a = none)
    (pairs : allPairs accepts leftOver (split text) (split text') = true) (kind1 : s.kind rule1 = .rule text)
    (kind2 : s.kind rule2 = .rule text') : rule2 ≠ rule1 := by
  rintro rfl
  rw [kind1, Kind.rule.injEq] at kind2
  subst kind2
  obtain ⟨a, listed⟩ := List.exists_mem_of_ne_nil _ (split_ne_nil text)
  obtain ⟨rest, isRest⟩ := exists_of_allPairs pairs listed listed
  rw [irreflexive] at isRest
  cases isRest

theorem suffix?_self (a : Text) : suffix? a a = none := by
  have same : Text.strip a a = some [] := by
    induction a with
    | nil => rfl
    | cons c cs ih => rw [Text.strip, if_pos rfl, ih]
  rw [suffix?, same]

theorem lead?_self (a : Text) : lead? a a = none := by
  cases found : lead? a a with
  | none => rfl
  | some lead =>
    have lengths := congrArg List.length (eq_of_lead? found)
    rw [List.length_append, List.length_cons] at lengths
    omega

theorem nestedLast?_applyDescendant (kind1 : s.kind rule1 = .rule text) (kind2 : s.kind rule2 = .rule text')
    (different : rule2 ≠ rule1) :
    ∃ separator, Separates separator text ∧ (applyDescendant s rule1 rule2).kind rule2 = .rule text' ∧
      (applyDescendant s rule1 rule2).nestedLast? rule2 =
        some (Text.join separator ((split text).map (nestDescendant (split text')))) := by
  obtain ⟨separator, separates, renamed⟩ := setSelectors_of_rule kind1
    ((split text).map (nestDescendant (split text')))
  refine ⟨separator, separates, ?_⟩
  have stored1 := stored_of_selector? (congrArg Kind.selector? kind1)
  have stored2 := stored_of_selector? (congrArg Kind.selector? kind2)
  rw [applyDescendant, selectors?_of_rule kind1, selectors?_of_rule kind2]
  simp only [renamed]
  rw [nestedLast?_eq (lastChild_append (by rw [size_setKind]; exact stored2))]
  constructor
  · rw [kind_append, kind_eq, label_setKind s rule1 rule2 _ stored1, if_neg different, ← kind_eq, kind2]
  · rw [kind_append, kind_eq, label_setKind s rule1 rule1 _ stored1, if_pos rfl]
    rfl

theorem nestedLast?_applyAncestor (kind1 : s.kind rule1 = .rule text) (kind2 : s.kind rule2 = .rule text')
    (different : rule2 ≠ rule1) :
    ∃ separator, Separates separator text ∧ (applyAncestor s rule1 rule2).kind rule2 = .rule text' ∧
      (applyAncestor s rule1 rule2).nestedLast? rule2 =
        some (Text.join separator ((split text).map (nestAncestor (split text')))) := by
  obtain ⟨renamed, planted, isRenamed, isPlanted, applied⟩ :=
    applyAncestor_of_selectors (selectors?_of_rule kind1) (selectors?_of_rule kind2)
  obtain ⟨separator, separates, isKind⟩ := setSelectors_of_rule ((kind_remove s rule1 rule1).trans kind1)
    ((split text).map (nestAncestor (split text')))
  refine ⟨separator, separates, ?_⟩
  have stored1 : rule1 < (s.remove rule1).nodes.size := by
    rw [size_remove]
    exact stored_of_selector? (congrArg Kind.selector? kind1)
  have size : renamed.nodes.size = s.nodes.size := by
    rw [isRenamed, isKind, size_setKind, size_remove]
  have stored2 : rule2 < renamed.nodes.size := size ▸ stored_of_selector? (congrArg Kind.selector? kind2)
  have renamedKinds : ∀ x, renamed.kind x = if x = rule1 then
      .rule (Text.join separator ((split text).map (nestAncestor (split text')))) else s.kind x := by
    intro x
    rw [kind_eq, isRenamed, isKind, label_setKind _ _ _ _ stored1]
    split
    · rfl
    · rw [← kind_eq, kind_remove]
  have room : renamed.nodes.size < planted.nodes.size := by
    rw [isPlanted, size_plant]
    exact Nat.lt_succ_self _
  have kinds : ∀ x, ((planted.children rule1).foldl
      (fun sheet child => sheet.append renamed.nodes.size child) planted).kind x = planted.kind x :=
    fun x => (kind_foldl_append planted _ x _).1
  have sizes := (kind_foldl_append planted renamed.nodes.size root (planted.children rule1)).2
  rw [applied, nestedLast?_eq (lastChild_append (by rw [sizes]; exact Nat.lt_trans stored2 room))]
  constructor
  · rw [kind_append, kinds, kind_eq, isPlanted, label_plant_of_lt stored2, ← kind_eq, renamedKinds,
      if_neg different, kind2]
  · have found := label_plant renamed (.node ((renamed.label rule1).nesting
      ((renamed.selector? rule1).getD [])) []) (Nat.le_refl _) (isPlanted ▸ room)
    rw [← isPlanted, Nat.sub_self] at found
    have own : planted.label renamed.nodes.size =
        (renamed.label rule1).nesting ((renamed.selector? rule1).getD []) := (Option.some.inj found).symm
    rw [kind_append, kinds, kind_eq, own, Sheet.selector?, renamedKinds, if_pos rfl]
    rfl

theorem resolvedLast_eq {outer : NodeId} {inner : Text} (isOuter : s.kind outer = .rule text')
    (isInner : s.nestedLast? outer = some inner) :
    s.resolvedLast outer = resolve (split text') (split inner) := by
  rw [resolvedLast, isInner, selectors?_of_rule isOuter]
  rfl

/-- Nesting a rule into another one by what their selectors share. The selectors that the rewritten ones stand
for are those that the rule had, and no others, exactly when the other rule has one selector only, be it listed
once or several times; and they are always among them. The nested text is read as the rewritten selectors exactly
when none of them is split and each but the last leaves nothing open. -/
theorem Relation.resolvedLast_apply_iff (accepts : Text → Bool) (relation : Relation)
    (nests : relation ≠ .media) {s : Sheet} {rule1 rule2 : NodeId} {text text' : Text}
    (isFirst : s.selector? rule1 = some text) (isSecond : s.selector? rule2 = some text')
    (plain : '&' ∉ text ∧ '&' ∉ text') (holds : relation.holds accepts s rule1 rule2 = true) :
    (∀ selector ∈ split text,
        selector ∈ resolve (split text') ((split text).map (relation.nest (split text')))) ∧
      ((∀ selector, selector ∈ resolve (split text') ((split text).map (relation.nest (split text'))) ↔
          selector ∈ split text) ↔ ∀ a ∈ split text', ∀ b ∈ split text', a = b) ∧
      ∃ inner, (relation.apply s rule1 rule2).nestedLast? rule2 = some inner ∧
        (relation.apply s rule1 rule2).resolvedLast rule2 = resolve (split text') (split inner) ∧
        (split inner = (split text).map (relation.nest (split text')) ↔
          relation.ReadsBack (split text) (split text')) := by
  have kind1 := rule_of_selector? isFirst
  have kind2 := rule_of_selector? isSecond
  cases relation with
  | descendant =>
    have pairs := allPairs_of_holds kind1 kind2 holds
    have cut : ∀ a ∈ split text, _ := fun a listed => cutAt_nestDescendant pairs plain.1 listed
    obtain ⟨separator, separates, isOuter, isInner⟩ := nestedLast?_applyDescendant kind1 kind2
      (ne_of_allPairs suffix?_self pairs kind1 kind2)
    obtain ⟨among, same⟩ := resolve_map_iff (split_ne_nil text) cut
    exact ⟨among, same, _, isInner, resolvedLast_eq isOuter isInner, split_join_nest_iff separates cut⟩
  | ancestor =>
    have pairs := allPairs_of_holds kind1 kind2 holds
    have cut : ∀ a ∈ split text, _ := fun a listed => cutAt_nestAncestor pairs plain.1 listed
    obtain ⟨separator, separates, isOuter, isInner⟩ := nestedLast?_applyAncestor kind1 kind2
      (ne_of_allPairs lead?_self pairs kind1 kind2)
    obtain ⟨among, same⟩ := resolve_map_iff (split_ne_nil text) cut
    exact ⟨among, same, _, isInner, resolvedLast_eq isOuter isInner, split_join_nest_iff separates cut⟩
  | media => exact absurd rfl nests

def twoRules (first second : String) : Sheet :=
  Sheet.ofTree (.node { kind := .root }
    [.node { kind := .rule first.toList } [], .node { kind := .rule second.toList } []])

/-- A list goes into a rule whose selector ends with an open escape, is read back, and stands for the same
selectors there. -/
theorem Relation.resolvedLast_apply_iff_escape :
    Relation.descendant.holds (fun _ => true) (twoRules "a\\" "a\\ b, a\\:not(c, d)") 2 1 = true ∧
      ∀ selector, selector ∈ (Relation.descendant.apply (twoRules "a\\" "a\\ b, a\\:not(c, d)") 2 1).resolvedLast
        1 ↔ selector ∈ split "a\\ b, a\\:not(c, d)".toList := by
  have holds : Relation.descendant.holds (fun _ => true) (twoRules "a\\" "a\\ b, a\\:not(c, d)") 2 1 = true := by
    decide +kernel
  obtain ⟨-, same, inner, -, stands, reads⟩ := Relation.resolvedLast_apply_iff (fun _ => true) .descendant
    (by decide) rfl rfl (by decide) holds
  refine ⟨holds, ?_⟩
  rw [stands, reads.mpr (by decide +kernel)]
  exact same.mpr (by decide +kernel)

/-- A rule goes into one with two selectors, and stands for one more selector there, whichever way the
selectors are shared. A selector is cut between an escape and the comma that it takes along, and is read as two;
two are cut inside brackets, and are read as one. -/
theorem Relation.resolvedLast_apply_two_lengths :
    ((Relation.descendant.holds (fun _ => true) (twoRules "a, a b" "a b c") 2 1 = true ∧
        ¬ ∀ selector, selector ∈ (Relation.descendant.apply (twoRules "a, a b" "a b c") 2 1).resolvedLast 1 ↔
          selector ∈ split "a b c".toList) ∧
      Relation.ancestor.holds (fun _ => true) (twoRules "b, a b" "x a b") 2 1 = true ∧
        ¬ ∀ selector, selector ∈ (Relation.ancestor.apply (twoRules "b, a b" "x a b") 2 1).resolvedLast 1 ↔
          selector ∈ split "x a b".toList) ∧
    (Relation.descendant.holds (fun _ => true) (twoRules "a\\" "a\\,b") 2 1 = true ∧
        (Relation.descendant.apply (twoRules "a\\" "a\\,b") 2 1).resolvedLast 1 =
          ["a\\".toList, "b".toList] ∧ split "a\\,b".toList = ["a\\,b".toList]) ∧
      Relation.ancestor.holds (fun _ => true) (twoRules "c)" "a( c), b( c)") 2 1 = true ∧
        (Relation.ancestor.apply (twoRules "c)" "a( c), b( c)") 2 1).resolvedLast 1 =
          ["a( c), b( c)".toList] ∧ split "a( c), b( c)".toList = ["a( c)".toList, "b( c)".toList] := by
  refine ⟨⟨⟨by decide +kernel, fun same => ?_⟩, by decide +kernel, fun same => ?_⟩, by decide +kernel,
    by decide +kernel⟩
  · exact absurd ((same "a c".toList).mp (by decide +kernel)) (by decide +kernel)
  · exact absurd ((same "x b".toList).mp (by decide +kernel)) (by decide +kernel)

end sheets

end Nesting

end NestLint
