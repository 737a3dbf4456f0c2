import NestLint.Proofs.Nesting.Resolving
import NestLint.Proofs.Nesting.Run
import NestLint.Proofs.Source.Parsed

/-!
The text of a nested sheet is read as the nested sheet. Nesting keeps a tree tidy: the rule that moves
gets a head that is read as such, because its selector begins with an ampersand and holds nothing that
opens or ends anything; blocks that get a child have no statement left without its semicolon; and a
block that takes over the layout of another takes over what closes it together with its children.
-/

namespace NestLint

open Source

namespace Label

variable {l : Label}

theorem opens_of_rule {selector rest : Text} (kind : l.kind = .rule selector) (first : selector = '&' :: rest)
    (inert : Inert selector) (trimmed : Text.trimEnd selector = selector)
    (blank : ∀ c ∈ l.raws.between.getD [], Text.isBlank c = true) : l.Opens := by
  intro behind
  have region : Inert (selector ++ l.raws.between.getD []) := inert_append.mpr ⟨inert, inert_of_isBlank blank⟩
  have found := cut_eq_block_iff.mpr (scan_of_inert region rfl behind)
  have plainly : Plainly (selector ++ l.raws.between.getD [] ++ '{' :: behind) := by
    rw [first]
    exact ⟨'&', _, rfl, by decide, by decide, by decide, by simp⟩
  have mark := congrArg Cut.plainMark found
  rw [Cut.plainMark, Text.trimEnd, Text.splitEnd_append_of_all trimmed blank] at mark
  have reads := (reads_plain plainly).mpr mark
  rw [kind]
  simpa [opening, head, kind] using reads

theorem opens_nesting {params : Text} (inert : Inert params) (full : params ≠ [])
    (trimmed : params.trim = params) (blank : ∀ c ∈ l.raws.between.getD [], Text.isBlank c = true) :
    (l.nesting params).Opens := by
  intro behind
  obtain ⟨c, rest, rfl⟩ := List.exists_cons_of_ne_nil full
  have visible := Text.visible_of_trim trimmed
  have trimmedEnd : Text.trimEnd (' ' :: c :: rest) = ' ' :: c :: rest :=
    Text.trimEnd_append_of_trim [' '] full trimmed
  have region : Inert (' ' :: c :: rest ++ l.raws.between.getD []) :=
    inert_append.mpr ⟨List.forall_mem_cons.mpr ⟨by decide, inert⟩, inert_of_isBlank blank⟩
  have found := cut_eq_block_iff.mpr (scan_of_inert region rfl behind)
  have parts : splitParams (' ' :: c :: rest ++ l.raws.between.getD []) =
      ([' '], c :: rest, l.raws.between.getD []) := by
    rw [splitParams, Text.splitEnd_append_of_all trimmedEnd blank]
    have space : Text.isBlank ' ' = true := by decide
    simp [Text.splitBlanks, space, visible]
  have mark := congrArg (Cut.atMark "nest".toList) found
  rw [Cut.atMark, parts] at mark
  have reads := (reads_atRule (by simp [endsName]) (by simp [endsName])).mpr mark
  simpa [nesting, opening, head] using reads

/-- A tidy node; if it is a rule, nothing in its selector opens or ends anything. -/
structure Neat (l : Label) (ls : List Label) : Prop extends l.Tidy ls where
  inert : ∀ selector, l.kind = .rule selector → Inert selector

structure Inner (l : Label) : Prop where
  block : l.kind.isContainer = true
  below : l.kind.isRoot = false
  apart : l.Apart

namespace Neat

variable {l l' c : Label} {ls front behind cs ds : List Label}

theorem relabel (neat : l.Neat ls) (block : l.kind.isContainer = true) (below : l.kind.isRoot = false)
    (block' : l'.kind.isContainer = true) (below' : l'.kind.isRoot = false) (known : l'.Known)
    (after : l'.raws.after = l.raws.after) (semicolon : l'.raws.semicolon = l.raws.semicolon)
    (opens : l'.Opens) (trimmed : l'.Trimmed)
    (inert : ∀ selector, l'.kind = .rule selector → Inert selector) : l'.Neat ls where
  known := known
  apart := neat.apart
  leaf leaf := by
    rw [block'] at leaf
    cases leaf
  after _ := by
    rw [after]
    exact neat.after block
  opens _ _ := opens
  trimmed := trimmed
  semicolon := by
    rw [semicolon]
    exact neat.semicolon
  row := by
    rw [semicolon]
    refine neat.row.mono fun last closes => ?_
    have tails : l'.tail = l.tail := by
      funext rest
      rw [tail, tail, below, below', after]
    rw [Closes, tails]
    exact ⟨closes.1, fun _ => closes.2 below⟩
  inert := inert

theorem setBefore (neat : l.Neat ls) (block : l.kind.isContainer = true) (below : l.kind.isRoot = false)
    (before : Option Text) : (l.setBefore before).Neat ls :=
  neat.relabel block below block below neat.known rfl rfl (neat.opens block below) neat.trimmed neat.inert

theorem grow (neat : l.Neat ls) (block : l.kind.isContainer = true) (below : l.kind.isRoot = false)
    (inner : c.Inner) : l.Neat (ls ++ [c]) where
  known := neat.known
  apart := by
    refine List.forall_mem_append.mpr ⟨neat.apart, ?_⟩
    simpa using ⟨inner.apart, inner.below⟩
  leaf leaf := by
    rw [block] at leaf
    cases leaf
  after := neat.after
  opens := neat.opens
  trimmed := neat.trimmed
  semicolon := Or.inr (by simpa using inner.block)
  row := by
    -- A last statement without a semicolon gets one now.
    rw [row_append_iff (by simp [Tree.isComment_of_isContainer inner.block])]
    exact ⟨neat.row.ends fun last closes => closes.2 below, by simp [Row, inner.block]⟩
  inert := neat.inert

theorem drop (neat : l.Neat (c :: ls)) (more : ls ≠ []) : l.Neat ls where
  known := neat.known
  apart := (List.forall_mem_cons.mp neat.apart).2
  leaf leaf := absurd (neat.leaf leaf) (by simp)
  after := neat.after
  opens := neat.opens
  trimmed := neat.trimmed
  semicolon := by
    refine neat.semicolon.imp id fun last => ?_
    rwa [List.getLast?_cons_of_ne_nil more] at last
  row := neat.row.2
  inert := neat.inert

theorem replace (neat : l.Neat (front ++ cs ++ behind)) (some : cs ≠ [])
    (blocks : ∀ c ∈ cs, c.kind.isContainer = true) (some' : ds ≠ []) (inner : ∀ d ∈ ds, d.Inner) :
    l.Neat (front ++ ds ++ behind) := by
  -- What stands in front is followed by a block before and after, and what stands behind is not touched.
  have followed : ∀ {us : List Label}, us ≠ [] → (∀ c ∈ us, c.kind.isContainer = true) →
      ((us ++ behind).any fun later => !later.kind.isComment) = true := by
    intro us full containers
    obtain ⟨c, rest, rfl⟩ := List.exists_cons_of_ne_nil full
    simp [Tree.isComment_of_isContainer (containers c List.mem_cons_self)]
  have blocks' : ∀ d ∈ ds, d.kind.isContainer = true := fun d listed => (inner d listed).block
  obtain ⟨⟨known, apart, leaf, after, opens, trimmed, semicolon, row⟩, inert⟩ := neat
  rw [List.append_assoc] at row semicolon
  rw [row_append_iff (followed some blocks), row_append_of_isContainer blocks] at row
  rw [List.append_assoc] at apart
  rw [List.forall_mem_append, List.forall_mem_append] at apart
  refine ⟨⟨known, ?_, ?_, after, opens, trimmed, ?_, ?_⟩, inert⟩
  · rw [List.append_assoc, List.forall_mem_append, List.forall_mem_append]
    exact ⟨apart.1, fun d listed => ⟨(inner d listed).apart, (inner d listed).below⟩, apart.2.2⟩
  · intro isLeaf
    exact absurd (leaf isLeaf) (by simp [some])
  · refine semicolon.imp id fun last c isLast => ?_
    by_cases none : behind = []
    · rw [none, List.append_nil, List.getLast?_append_of_ne_nil _ some'] at isLast
      exact blocks' c (List.mem_of_getLast? isLast)
    · rw [List.getLast?_append_of_ne_nil _ none] at isLast
      rw [← List.append_assoc, List.getLast?_append_of_ne_nil _ none] at last
      exact last c isLast
  · rw [List.append_assoc, row_append_iff (followed some' blocks'), row_append_of_isContainer blocks']
    exact row

end Neat

end Label

namespace Nesting

open SelectorList

variable {accepts : Text → Bool} {first second separator : Text}

theorem inert_join_nest (separates : Separates separator first) {nest : Text → Text}
    (inert : ∀ a ∈ split first, Inert (nest a)) (full : ∀ a ∈ split first, nest a ≠ [])
    (trimmed : ∀ a ∈ split first, (nest a).trim = nest a) :
    Inert (Text.join separator ((split first).map nest)) ∧
      (Text.join separator ((split first).map nest)).trim = Text.join separator ((split first).map nest) ∧
      Text.join separator ((split first).map nest) ≠ [] := by
  refine ⟨fun c listed => ?_, Text.trim_join separator ?_ (List.forall_mem_map.mpr full)
    (List.forall_mem_map.mpr trimmed)⟩
  · rcases Text.mem_join listed with ⟨text, isText, inside⟩ | ⟨several, between⟩
    · obtain ⟨a, isFirst, rfl⟩ := List.mem_map.mp isText
      exact inert a isFirst c inside
    · rw [List.length_map] at several
      obtain ⟨blanks, rfl, blank⟩ := isSeparator_of_separates separates several
      rcases List.mem_cons.mp between with rfl | behind
      · decide
      · exact inert_of_isBlank blank c behind
  · rw [ne_eq, List.map_eq_nil_iff]
    exact split_ne_nil first

theorem inert_of_mem_split {a : Text} (inert : Inert first) (listed : a ∈ split first) : Inert a :=
  fun c inside => inert c ((of_mem_split listed).2.2 c inside)

theorem join_nestDescendant (shares : Shares accepts suffix? first second)
    (separates : Separates separator first) (inert : Inert first) {nested : Text}
    (isNested : nested = Text.join separator ((split first).map (nestDescendant (split second)))) :
    Inert nested ∧ nested.trim = nested ∧ ∃ rest, nested = '&' :: rest := by
  have parts : ∀ a ∈ split first, ∃ rest, nestDescendant (split second) a = '&' :: rest ∧ Inert rest := by
    intro a listed
    obtain ⟨own, -, rest, -, whole, isRest, -⟩ :=
      nestDescendant_of_allPairs shares.2.2 (split_ne_nil second) listed
    have pieces := inert_of_mem_split inert listed
    rw [whole, inert_append] at pieces
    exact ⟨rest, isRest, pieces.2⟩
  obtain ⟨inertJoined, trimmed, -⟩ := inert_join_nest separates
    (fun a listed => by
      obtain ⟨rest, isRest, inertRest⟩ := parts a listed
      rw [isRest]
      exact List.forall_mem_cons.mpr ⟨by decide, inertRest⟩)
    (fun a listed => by
      obtain ⟨rest, isRest, -⟩ := parts a listed
      rw [isRest]
      exact List.cons_ne_nil _ _)
    fun a listed => trim_nestDescendant shares.2.2 listed
  rw [isNested]
  refine ⟨inertJoined, trimmed, ?_⟩
  obtain ⟨a, others, isSplit⟩ := List.exists_cons_of_ne_nil (split_ne_nil first)
  obtain ⟨rest, isRest, -⟩ := parts a (isSplit ▸ List.mem_cons_self)
  rw [isSplit, List.map_cons, isRest]
  obtain ⟨more, whole⟩ := Text.exists_join_cons separator ('&' :: rest) _
  exact ⟨rest ++ more, whole⟩

theorem join_nestAncestor (shares : Shares accepts lead? first second)
    (separates : Separates separator first) (inert : Inert first) {nested : Text}
    (isNested : nested = Text.join separator ((split first).map (nestAncestor (split second)))) :
    Inert nested ∧ nested.trim = nested ∧ nested ≠ [] := by
  have parts : ∀ a ∈ split first,
      ∃ lead, nestAncestor (split second) a = lead ++ [' ', '&'] ∧ Inert lead := by
    intro a listed
    obtain ⟨own, -, lead, -, whole, isLead, -⟩ :=
      nestAncestor_of_allPairs shares.2.2 (split_ne_nil second) listed
    have pieces := inert_of_mem_split inert listed
    rw [whole, inert_append] at pieces
    exact ⟨lead, isLead, pieces.1⟩
  rw [isNested]
  apply inert_join_nest separates
  · intro a listed
    obtain ⟨lead, isLead, inertLead⟩ := parts a listed
    rw [isLead]
    exact inert_append.mpr ⟨inertLead, by decide⟩
  · intro a listed
    obtain ⟨lead, isLead, -⟩ := parts a listed
    rw [isLead]
    simp
  · exact fun a listed => trim_nestAncestor shares.2.2 listed

theorem isContainer_of_rule {l : Label} {selector : Text} (kind : l.kind = .rule selector) :
    l.kind.isContainer = true ∧ l.kind.isRoot = false := by
  rw [kind]
  exact ⟨rfl, rfl⟩

section relabel

variable {l : Label} {ls : List Label}

theorem neat_of_nestDescendant (neat : l.Neat ls) (kind : l.kind = .rule first)
    (shares : Shares accepts suffix? first second) (separates : Separates separator first) {nested : Text}
    (isNested : nested = Text.join separator ((split first).map (nestDescendant (split second)))) :
    ({ l with kind := .rule nested } : Label).Neat ls := by
  obtain ⟨inert, trimmed, rest, starts⟩ :=
    join_nestDescendant shares separates (neat.inert first kind) isNested
  have full : nested ≠ [] := by
    rw [starts]
    exact List.cons_ne_nil _ _
  have trimmedEnd : Text.trimEnd nested = nested := Text.trimEnd_append_of_trim [] full trimmed
  have blank := (neat.trimmed first kind).2.1
  have known : ({ l with kind := .rule nested } : Label).Known := by
    have own := neat.known
    rw [Label.Known, kind] at own
    exact own
  obtain ⟨block, below⟩ := isContainer_of_rule kind
  refine neat.relabel block below rfl rfl known rfl rfl ?_ ?_ ?_
  · exact Label.opens_of_rule rfl starts inert trimmedEnd blank
  · rintro selector ⟨⟩
    exact ⟨trimmedEnd, blank, fun listed => absurd (inert _ listed).1 (by decide),
      fun _ c listed => (inert c listed).2⟩
  · rintro selector ⟨⟩
    exact inert

theorem neat_of_nestAncestor (neat : l.Neat ls) (kind : l.kind = .rule first)
    (shares : Shares accepts lead? first second) (separates : Separates separator first) {nested : Text}
    (isNested : nested = Text.join separator ((split first).map (nestAncestor (split second)))) :
    (l.nesting nested).Neat ls := by
  obtain ⟨inert, trimmed, full⟩ := join_nestAncestor shares separates (neat.inert first kind) isNested
  have blank := (neat.trimmed first kind).2.1
  have known : (l.nesting nested).Known := by
    have own := neat.known
    rw [Label.Known, kind] at own
    exact ⟨rfl, own⟩
  obtain ⟨block, below⟩ := isContainer_of_rule kind
  refine neat.relabel block below rfl rfl known rfl rfl ?_ ?_ ?_
  · exact Label.opens_nesting inert full trimmed blank
  · rintro selector ⟨⟩
  · rintro selector ⟨⟩

theorem isContainer_of_atRule {name params : Text} {hasBlock : Bool} (neat : l.Neat ls)
    (kind : l.kind = .atRule name params hasBlock) (some : ls ≠ []) :
    hasBlock = true ∧ l.kind.isContainer = true ∧ l.kind.isRoot = false := by
  cases hasBlock with
  | true =>
    rw [kind]
    exact ⟨rfl, rfl, rfl⟩
  | false => exact absurd (neat.leaf (by rw [kind]; rfl)) some

theorem neat_wrapping {media : Label} {others : List Label} {name params selector : Text} {hasBlock : Bool}
    (neatMedia : media.Neat (l :: others)) (kindMedia : media.kind = .atRule name params hasBlock)
    (neat : l.Neat ls) (kind : l.kind = .rule selector) : (media.wrapping l).Neat ls := by
  obtain ⟨rfl, blockMedia, belowMedia⟩ := isContainer_of_atRule neatMedia kindMedia (List.cons_ne_nil _ _)
  obtain ⟨block, below⟩ := isContainer_of_rule kind
  have known : (media.wrapping l).Known := by
    have knownMedia := neatMedia.known
    have knownRule := neat.known
    rw [Label.Known, kindMedia] at knownMedia
    rw [Label.Known, kind] at knownRule
    have kindWrapping : (media.wrapping l).kind = .atRule name params true := kindMedia
    rw [Label.Known, kindWrapping]
    exact ⟨knownMedia.1, knownMedia.2.1, knownRule.2⟩
  exact neat.relabel block below blockMedia belowMedia known rfl rfl
    (neatMedia.opens blockMedia belowMedia) neatMedia.trimmed neatMedia.inert

end relabel

/-- A neat tree that may stand among the children of a node. -/
structure Fitting (t : Tree Label) : Prop where
  neat : t.Every Label.Neat
  inner : t.label.Inner

theorem Fitting.setBefore {l m : Label} {ts : List (Tree Label)} (fitting : Fitting (.node l ts))
    (apart : m.Apart) {before : Option Text} (passed : before = l.raws.before ∨ before = m.raws.before) :
    Fitting (.node (l.setBefore before) ts) := by
  refine ⟨⟨fitting.neat.1.setBefore fitting.inner.block fitting.inner.below before, fitting.neat.2⟩,
    fitting.inner.block, fitting.inner.below, ?_⟩
  rcases passed with rfl | rfl
  · exact fitting.inner.apart
  · exact apart

theorem Fitting.grow {l : Label} {ts : List (Tree Label)} {t : Tree Label} (fitting : Fitting (.node l ts))
    (child : Fitting t) : Fitting (.node l (ts ++ [t])) := by
  refine ⟨⟨?_, ?_⟩, fitting.inner⟩
  · rw [List.map_append]
    exact fitting.neat.1.grow fitting.inner.block fitting.inner.below child.inner
  · have below := Tree.everyAll_iff.mp fitting.neat.2
    refine Tree.everyAll_iff.mpr (List.forall_mem_append.mpr ⟨below, ?_⟩)
    simpa using child.neat

theorem fitting_wrapping {media first : Label} {us rest : List (Tree Label)} {name params selector : Text}
    {hasBlock : Bool} (neat : (Tree.node media (.node first us :: rest)).Every Label.Neat)
    (kindMedia : media.kind = .atRule name params hasBlock) (kindFirst : first.kind = .rule selector) :
    Fitting (.node (media.wrapping first) us) := by
  obtain ⟨own, child, -⟩ := neat
  obtain ⟨-, block, below⟩ := isContainer_of_atRule own kindMedia (List.cons_ne_nil _ _)
  exact ⟨⟨neat_wrapping own kindMedia child.1 kindFirst, child.2⟩, block, below,
    (own.apart first List.mem_cons_self).1⟩

/-- What becomes of a pair of neat neighbours is neat. -/
theorem fitting_of_rewrites {a b : Tree Label} {as bs : List (Tree Label)}
    (rewrites : Rewrites accepts a b as bs) (neatA : a.Every Label.Neat) (neatB : b.Every Label.Neat)
    (apartA : a.label.Apart) (apartB : b.label.Apart) :
    a.label.kind.isContainer = true ∧ b.label.kind.isContainer = true ∧ as ++ bs ≠ [] ∧
      ∀ t ∈ as ++ bs, Fitting t := by
  cases rewrites with
  | @descendant inner outer ts us first second separator before kindInner kindOuter shares separates passed =>
    obtain ⟨blockA, belowA⟩ := isContainer_of_rule kindInner
    obtain ⟨blockB, belowB⟩ := isContainer_of_rule kindOuter
    have host : Fitting (.node outer us) := ⟨neatB, blockB, belowB, apartB⟩
    refine ⟨blockA, blockB, by simp, ?_⟩
    rw [List.nil_append, List.forall_mem_singleton]
    apply (host.setBefore apartA passed).grow
    exact ⟨⟨neat_of_nestDescendant neatA.1 kindInner shares separates rfl, neatA.2⟩, rfl, rfl, apartA⟩
  | @ancestor outer inner ts us first second separator before kindOuter kindInner shares separates passed =>
    obtain ⟨blockA, belowA⟩ := isContainer_of_rule kindOuter
    obtain ⟨blockB, belowB⟩ := isContainer_of_rule kindInner
    have host : Fitting (.node inner us) := ⟨neatB, blockB, belowB, apartB⟩
    refine ⟨blockA, blockB, by simp, ?_⟩
    rw [List.nil_append, List.forall_mem_singleton]
    apply (host.setBefore apartA passed).grow
    exact ⟨⟨neat_of_nestAncestor neatA.1 kindOuter shares separates rfl, neatA.2⟩, rfl, rfl, apartA⟩
  | @media rule media first ts us rest selector params hasBlock kindRule kindMedia kindFirst more =>
    obtain ⟨blockA, belowA⟩ := isContainer_of_rule kindRule
    have host : Fitting (.node rule ts) := ⟨neatA, blockA, belowA, apartA⟩
    obtain ⟨-, blockB, belowB⟩ := isContainer_of_atRule neatB.1 kindMedia (List.cons_ne_nil _ _)
    refine ⟨blockA, blockB, by simp, List.forall_mem_cons.mpr ⟨?_, List.forall_mem_singleton.mpr ?_⟩⟩
    · exact host.grow (fitting_wrapping neatB kindMedia kindFirst)
    · exact ⟨⟨neatB.1.drop (by simpa using more), neatB.2.2⟩, blockB, belowB, apartB⟩
  | @mediaWhole rule media first ts us selector params hasBlock before kindRule kindMedia kindFirst passed =>
    obtain ⟨blockA, belowA⟩ := isContainer_of_rule kindRule
    have host : Fitting (.node rule ts) := ⟨neatA, blockA, belowA, apartA⟩
    obtain ⟨-, blockB, -⟩ := isContainer_of_atRule neatB.1 kindMedia (List.cons_ne_nil _ _)
    refine ⟨blockA, blockB, by simp, ?_⟩
    rw [List.append_nil, List.forall_mem_singleton]
    exact (host.setBefore apartB passed).grow (fitting_wrapping neatB kindMedia kindFirst)

theorem neat_of_replaced {l : Label} {front behind ts us : List (Tree Label)}
    (neat : (Tree.node l (front ++ ts ++ behind)).Every Label.Neat) (some : ts ≠ [])
    (blocks : ∀ t ∈ ts, t.label.kind.isContainer = true) (some' : us ≠ []) (fitting : ∀ t ∈ us, Fitting t) :
    (Tree.node l (front ++ us ++ behind)).Every Label.Neat := by
  obtain ⟨own, below⟩ := neat
  rw [Tree.everyAll_iff, List.forall_mem_append, List.forall_mem_append] at below
  rw [List.map_append, List.map_append] at own
  refine ⟨?_, Tree.everyAll_iff.mpr ?_⟩
  · rw [List.map_append, List.map_append]
    exact own.replace (by simpa using some) (List.forall_mem_map.mpr blocks) (by simpa using some')
      (List.forall_mem_map.mpr fun t listed => (fitting t listed).inner)
  · rw [List.forall_mem_append, List.forall_mem_append]
    exact ⟨⟨below.1.1, fun t listed => (fitting t listed).neat⟩, below.2⟩

theorem neat_child {l : Label} {ts : List (Tree Label)} {t : Tree Label}
    (neat : (Tree.node l ts).Every Label.Neat) (listed : t ∈ ts) : t.Every Label.Neat ∧ t.label.Apart :=
  ⟨Tree.everyAll_iff.mp neat.2 t listed, (neat.1.apart t.label (List.mem_map_of_mem listed)).1⟩

theorem neat_of_rewritten {t t' : Tree Label} (rewritten : Rewritten accepts t t')
    (neat : t.Every Label.Neat) : t'.Every Label.Neat ∧ t'.label = t.label := by
  cases rewritten with
  | @forward a b as bs l front behind rewrites =>
    obtain ⟨neatA, apartA⟩ := neat_child neat (List.mem_append_right front List.mem_cons_self)
    obtain ⟨neatB, apartB⟩ :=
      neat_child neat (List.mem_append_right front (List.mem_cons_of_mem a List.mem_cons_self))
    obtain ⟨blockA, blockB, some, fitting⟩ := fitting_of_rewrites rewrites neatA neatB apartA apartB
    have whole : front ++ a :: b :: behind = front ++ [a, b] ++ behind := by simp
    rw [whole] at neat
    exact ⟨neat_of_replaced neat (by simp) (by simp [blockA, blockB]) some fitting, rfl⟩
  | @backward a b as bs l front behind rewrites =>
    obtain ⟨neatB, apartB⟩ := neat_child neat (List.mem_append_right front List.mem_cons_self)
    obtain ⟨neatA, apartA⟩ :=
      neat_child neat (List.mem_append_right front (List.mem_cons_of_mem b List.mem_cons_self))
    obtain ⟨blockA, blockB, some, fitting⟩ := fitting_of_rewrites rewrites neatA neatB apartA apartB
    have whole : front ++ b :: a :: behind = front ++ [b, a] ++ behind := by simp
    rw [whole] at neat
    have some' : bs ++ as ≠ [] := by simpa [and_comm] using some
    refine ⟨neat_of_replaced neat (by simp) (by simp [blockA, blockB]) some' fun t listed => ?_, rfl⟩
    exact fitting t (List.mem_append.mpr (List.mem_append.mp listed).symm)

theorem neat_of_step {t t' : Tree Label} (step : Step accepts t t') (neat : t.Every Label.Neat) :
    t'.Every Label.Neat ∧ t'.label = t.label := by
  induction step with
  | here changed => exact neat_of_rewritten changed neat
  | @under t t' l front behind _ ih =>
    obtain ⟨neat', label'⟩ := ih (neat_child neat (List.mem_append_right front List.mem_cons_self)).1
    obtain ⟨own, below⟩ := neat
    rw [Tree.everyAll_iff, List.forall_mem_append, List.forall_mem_cons] at below
    rw [List.map_append, List.map_cons, ← label', ← List.map_cons, ← List.map_append] at own
    refine ⟨⟨own, Tree.everyAll_iff.mpr ?_⟩, rfl⟩
    rw [List.forall_mem_append, List.forall_mem_cons]
    exact ⟨below.1, neat', below.2.2⟩

theorem neat_of_steps {t t' : Tree Label} (steps : Relation.ReflTransGen (Step accepts) t t')
    (neat : t.Every Label.Neat) : t'.Every Label.Neat := by
  induction steps with
  | refl => exact neat
  | tail _ step ih => exact (neat_of_step step ih).1

end Nesting

namespace Sheet

/-- No selector of the sheet holds a quote, a bracket or a slash. -/
def Unquoted (s : Sheet) : Prop :=
  ∀ id ∈ s.descendants root, ∀ selector ∈ (s.selector? id).toList,
    ∀ c ∈ selector, c ∉ ['\'', '"', '(', ')', '[', ']', '/']

instance (s : Sheet) : Decidable s.Unquoted :=
  decidable_of_iff (((s.descendants root).all fun id => (s.selector? id).toList.all fun selector =>
    selector.all fun c => !(['\'', '"', '(', ')', '[', ']', '/'].contains c)) = true) (by simp [Unquoted])

theorem neat_of_parse {source : String} {s : Sheet} (parsed : Sheet.parse source = .ok s)
    (escape : '\\' ∉ source.toList) (unquoted : s.Unquoted) : (s.tree root).Every Label.Neat := by
  have laid := laid_of_parse parsed
  have tidy : (s.tree root).Every Label.Tidy := by
    obtain ⟨t, read, rfl⟩ := exists_tree_of_parse parsed
    rw [tree_ofTree]
    exact Tree.tidy_moved .kept (Source.tidy_of_parse escape read)
  refine Tree.every_of_preorder _ tidy fun l listed ls own => ⟨own, fun selector kind c inside => ?_⟩
  rw [tree, Tree.preorder_map, List.mem_map] at listed
  obtain ⟨id, isId, rfl⟩ := listed
  rw [laid.linked.mem_preorder_shape, laid.linked.under_iff_mem_descendants] at isId
  rcases isId with rfl | below
  · have top : (s.label root).kind = .root := laid.root_kind
    rw [top] at kind
    cases kind
  · have isRule : s.kind id = .rule selector := kind
    have found : selector ∈ (s.selector? id).toList := by
      rw [selector?, isRule]
      exact List.mem_singleton_self selector
    obtain ⟨-, -, noEscape, passes⟩ := own.trimmed selector kind
    have plain : ∀ d ∈ selector, isSpecial d = false := by
      intro d isHere
      have apart := unquoted id below selector found d isHere
      have visible : d ≠ '\\' := by
        rintro rfl
        exact noEscape isHere
      simp only [List.mem_cons, List.not_mem_nil, or_false, not_or] at apart
      simp [isSpecial, visible, apart]
    exact ⟨plain c inside, passes plain c inside⟩

/-- The text of a sheet with a tidy tree is read as that tree. -/
theorem parse_css_of_tidy {s : Sheet} (formed : s.WellFormed) (tidy : (s.tree root).Every Label.Tidy) :
    ∃ u, Sheet.parse s.css = .ok u ∧ (u.tree root).map Label.kind = (s.tree root).map Label.kind := by
  have spelled : s.nodeCss root = (s.tree root).written false :=
    printTree_eq s false (s.shape root) (Tree.known_of_tidy _ tidy)
  have top : (s.tree root).label.kind = .root := by
    rw [formed.linked.tree_eq]
    exact formed.root_kind
  obtain ⟨t, parsed, kinds⟩ := Source.parse_written_of_tidy tidy top
  refine ⟨_, parse_of_tree (t := t) ?_, ?_⟩
  · rw [css, String.toList_ofList, spelled, parsed]
  · rw [tree_ofTree, Tree.kinds_moved]
    exact kinds

end Sheet

/-- The text of a sheet after a run is read, and what is read is the sheet that the run has left: the
same nodes in the same order and nesting, with the same selectors, names, parameters, declarations and
comments. -/
theorem Rule.parse_css_check {source : String} {s : Sheet} (parsed : Sheet.parse source = .ok s)
    (escape : '\\' ∉ source.toList) (unquoted : s.Unquoted) (rule : Rule) (session : Session) :
    ∃ u, Sheet.parse (rule.check (s, session)).1.css = .ok u ∧
      (u.tree Sheet.root).map Label.kind = ((rule.check (s, session)).1.tree Sheet.root).map Label.kind := by
  have run := rule.reaches_check (Sheet.laid_of_parse parsed) session
  have neat := Nesting.neat_of_steps run.steps (Sheet.neat_of_parse parsed escape unquoted)
  apply Sheet.parse_css_of_tidy run.laid.toWellFormed
  exact Tree.every_of_preorder _ neat fun l _ ls own => own.toTidy

/-- All three relations in one run, lists of selectors, and last declarations without semicolons. -/
theorem Rule.parse_css_check_all_relations :
    ∃ s, Sheet.parse
        "a\x7bp:1 \x7d a b,a c\x7bq:2\x7dx a\x7br:3\x7d@media m\x7ba\x7bs:4\x7da c\x7b;\x7d\x7d" = .ok s ∧
      s.Unquoted ∧ ∃ u, Sheet.parse (({} : Rule).check (s, { fix := true })).1.css = .ok u ∧
        (u.tree Sheet.root).map Label.kind =
          ((({} : Rule).check (s, { fix := true })).1.tree Sheet.root).map Label.kind := by
  have accepted : ((Sheet.parse
      "a\x7bp:1 \x7d a b,a c\x7bq:2\x7dx a\x7br:3\x7d@media m\x7ba\x7bs:4\x7da c\x7b;\x7d\x7d").toOption.any
        fun s => decide s.Unquoted) = true := by decide +kernel
  cases parsed : Sheet.parse
      "a\x7bp:1 \x7d a b,a c\x7bq:2\x7dx a\x7br:3\x7d@media m\x7ba\x7bs:4\x7da c\x7b;\x7d\x7d" with
  | error e => simp [parsed, Except.toOption] at accepted
  | ok s =>
    have unquoted : s.Unquoted := by simpa [parsed, Except.toOption] using accepted
    exact ⟨s, rfl, unquoted, Rule.parse_css_check parsed (by decide +kernel) unquoted {} { fix := true }⟩

end NestLint
