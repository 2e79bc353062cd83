import Descent.Tree
import Descent.Proofs.Text

/-! The outline of a tree determines the tree.

A line shows how deep its node is by the spaces in front, and shows the node itself without its
children. The lines of the children are the deeper ones behind it, up to the next that is not
deeper. So a lexeme may hold anything but line breaks, also what looks like the rest of a line.
-/

set_option autoImplicit false

namespace Descent

namespace Node

variable {Position : Type}

/-- A name of a branch or kind of a leaf that a line can begin with. -/
structure PlainName (name : String) : Prop where
  filled : name ≠ ""
  unspaced : ' ' ∉ name.toList
  colonless : ':' ∉ name.toList
  unbroken : '\n' ∉ name.toList

instance (name : String) : Decidable (PlainName name) :=
  decidable_of_iff (name ≠ "" ∧ ' ' ∉ name.toList ∧ ':' ∉ name.toList ∧ '\n' ∉ name.toList)
    ⟨fun ⟨filled, unspaced, colonless, unbroken⟩ => ⟨filled, unspaced, colonless, unbroken⟩,
      fun plain => ⟨plain.filled, plain.unspaced, plain.colonless, plain.unbroken⟩⟩

/-- All names and kinds are plain, and no lexeme holds a line break. -/
inductive Plain : Node Position → Prop where
  | leaf {kind lexeme : String} {start stop : Position} (named : PlainName kind)
      (unbroken : '\n' ∉ lexeme.toList) : Plain (.leaf kind lexeme start stop)
  | branch {name : String} {start stop : Position} {children : List (Node Position)}
      (named : PlainName name) (plain : ∀ child ∈ children, Plain child) :
      Plain (.branch name start stop children)

theorem Plain.named {node : Node Position} (plain : node.Plain) : PlainName node.name := by
  cases plain with
  | leaf named => exact named
  | branch named => exact named

theorem Plain.children {node : Node Position} (plain : node.Plain) :
    ∀ child ∈ node.children, child.Plain := by
  cases plain with
  | leaf => exact nofun
  | branch _ plain => exact plain

section Lines

variable [ToString Position] {left right node : Node Position}

def heading : Node Position → String
  | leaf kind lexeme start stop => kind ++ ":'" ++ lexeme ++ "'" ++ spanText start stop
  | branch name start stop _ => name ++ spanText start stop

theorem outlineAt_eq (node : Node Position) (depth : Nat) :
    node.outlineAt depth = indented depth node.heading :: outlineAll (depth + 1) node.children := by
  cases node with
  | leaf => rfl
  | branch => rfl

theorem toList_append_spanText (front : String) (start stop : Position) :
    (front ++ spanText start stop).toList = (front.toList ++ [' ']) ++ '[' ::
      ((toString start).toList ++ ',' :: (' ' :: (toString stop).toList ++ [')'])) := by
  simp [spanText]

theorem append_spanText_inj (numerals : Text.Numerals Position) {front front' : String}
    {start start' stop stop' : Position}
    (same : front ++ spanText start stop = front' ++ spanText start' stop') :
    front = front' ∧ start = start' ∧ stop = stop' := by
  have bracketless (start stop : Position) : '[' ∉
      (toString start).toList ++ ',' :: (' ' :: (toString stop).toList ++ [')']) := by
    have digits := numerals.not_mem '[' (by decide) (by decide)
    simp [digits start, digits stop]
  have commaless := numerals.not_mem ',' (by decide) (by decide)
  have lists := congrArg String.toList same
  rw [toList_append_spanText, toList_append_spanText] at lists
  obtain ⟨fronts, spans⟩ := Text.append_cons_inj_of_last (bracketless _ _) (bracketless _ _) lists
  obtain ⟨starts, stops⟩ := Text.append_cons_inj_of_first (commaless _) (commaless _) spans
  have ends := (List.cons.inj (List.append_cancel_right stops)).2
  exact ⟨String.toList_inj.mp (List.append_cancel_right fronts),
    numerals.told (String.toList_inj.mp starts), numerals.told (String.toList_inj.mp ends)⟩

theorem toList_leafText (kind lexeme : String) : (kind ++ ":'" ++ lexeme ++ "'").toList =
    kind.toList ++ ':' :: (['\''] ++ lexeme.toList ++ ['\'']) := by
  simp

theorem leafText_ne {kind lexeme name : String} (named : PlainName name) :
    kind ++ ":'" ++ lexeme ++ "'" ≠ name := by
  rintro rfl
  have colonless := named.colonless
  rw [toList_leafText] at colonless
  exact colonless (List.mem_append_right _ List.mem_cons_self)

/-- The heading tells a leaf from a branch, and all of the node but its children. -/
theorem eq_of_heading (numerals : Text.Numerals Position) (leftPlain : left.Plain)
    (rightPlain : right.Plain) (same : left.heading = right.heading)
    (children : left.children = right.children) : left = right := by
  cases leftPlain with
  | leaf named =>
    cases rightPlain with
    | leaf named' =>
      obtain ⟨texts, rfl, rfl⟩ := append_spanText_inj numerals same
      have lists := congrArg String.toList texts
      rw [toList_leafText, toList_leafText] at lists
      obtain ⟨kinds, rest⟩ := Text.append_cons_inj_of_first named.colonless named'.colonless lists
      have lexemes := List.append_cancel_left (List.append_cancel_right rest)
      rw [String.toList_inj.mp kinds, String.toList_inj.mp lexemes]
    | branch named' => exact absurd (append_spanText_inj numerals same).1 (leafText_ne named')
  | branch named =>
    cases rightPlain with
    | leaf => exact absurd (append_spanText_inj numerals same).1.symm (leafText_ne named)
    | branch =>
      obtain ⟨rfl, rfl, rfl⟩ := append_spanText_inj numerals same
      cases children
      rfl

theorem exists_heading_eq (node : Node Position) : ∃ rest, node.heading = node.name ++ rest := by
  cases node with
  | leaf kind lexeme start stop =>
    refine ⟨":'" ++ lexeme ++ "'" ++ spanText start stop, ?_⟩
    simp only [heading, name, String.append_assoc]
  | branch name start stop => exact ⟨spanText start stop, rfl⟩

theorem Plain.heading_unspaced (plain : node.Plain) :
    ∀ c ∈ node.heading.toList.head?, c ≠ ' ' := by
  obtain ⟨rest, begins⟩ := node.exists_heading_eq
  have filled : node.name.toList ≠ [] := mt String.toList_eq_nil_iff.mp plain.named.filled
  intro c first space
  rw [begins, String.toList_append, List.head?_append_of_ne_nil _ filled] at first
  exact plain.named.unspaced (space ▸ List.mem_of_mem_head? first)

theorem indented_inj {depth depth' : Nat} {text text' : String}
    (unspaced : ∀ c ∈ text.toList.head?, c ≠ ' ') (unspaced' : ∀ c ∈ text'.toList.head?, c ≠ ' ')
    (same : indented depth text = indented depth' text') : depth = depth' ∧ text = text' := by
  have lists := congrArg String.toList same
  unfold indented at lists
  rw [String.toList_append, String.toList_append, String.toList_ofList, String.toList_ofList]
    at lists
  have spaces (depth : Nat) : ∀ c ∈ List.replicate (2 * depth) ' ', (c == ' ') = true :=
    fun c member => beq_iff_eq.mpr (List.eq_of_mem_replicate member)
  obtain ⟨fronts, texts⟩ := Text.append_inj_of_ends (spaces depth) (spaces depth')
    (fun c first => beq_eq_false_iff_ne.mpr (unspaced c first))
    (fun c first => beq_eq_false_iff_ne.mpr (unspaced' c first)) lists
  have depths := congrArg List.length fronts
  rw [List.length_replicate, List.length_replicate] at depths
  exact ⟨by omega, String.toList_inj.mp texts⟩

end Lines

section Nesting

variable [ToString Position] {node : Node Position} {nodes others : List (Node Position)}
  {depth : Nat} {more more' : List String}

/-- No line is left, or the next one is that of a node which is less deep. -/
def Outside (Position : Type) [ToString Position] (depth : Nat) (lines : List String) : Prop :=
  ∀ line ∈ lines.head?, ∃ upper < depth, ∃ node : Node Position,
    node.Plain ∧ line = indented upper node.heading

/-- The lines of the node tell the node and where they end. -/
def Told (node : Node Position) : Prop :=
  ∀ {depth : Nat} {other : Node Position} {more more' : List String}, other.Plain →
    Outside Position (depth + 1) more → Outside Position (depth + 1) more' →
    node.outlineAt depth ++ more = other.outlineAt depth ++ more' → node = other ∧ more = more'

theorem Outside.deeper (outside : Outside Position depth more) :
    Outside Position (depth + 1) more := by
  intro line first
  obtain ⟨upper, less, shown⟩ := outside line first
  exact ⟨upper, Nat.lt_succ_of_lt less, shown⟩

theorem outside_outlineAt (plain : node.Plain) :
    Outside Position (depth + 1) (node.outlineAt depth ++ more) := by
  intro line first
  rw [outlineAt_eq] at first
  cases first
  exact ⟨depth, Nat.lt_succ_self depth, node, plain, rfl⟩

theorem outside_outlineAll (plain : ∀ node ∈ nodes, node.Plain)
    (outside : Outside Position depth more) :
    Outside Position (depth + 1) (outlineAll depth nodes ++ more) := by
  cases nodes with
  | nil => exact outside.deeper
  | cons node rest =>
    rw [outlineAll, List.append_assoc]
    exact outside_outlineAt (plain node List.mem_cons_self)

theorem Outside.ne_append (outside : Outside Position depth more) (plain : node.Plain)
    {rest : List String} : more ≠ node.outlineAt depth ++ rest := by
  rintro rfl
  rw [outlineAt_eq] at outside
  obtain ⟨upper, less, other, otherPlain, same⟩ := outside _ rfl
  have depths := (indented_inj plain.heading_unspaced otherPlain.heading_unspaced same).1
  omega

/-- Trees side by side are told one after the other. The lines of each end where the next begins,
or where lines less deep follow. -/
theorem outlineAll_told (plain : ∀ node ∈ nodes, node.Plain) (told : ∀ node ∈ nodes, node.Told)
    (othersPlain : ∀ node ∈ others, node.Plain) (outside : Outside Position depth more)
    (outside' : Outside Position depth more')
    (same : outlineAll depth nodes ++ more = outlineAll depth others ++ more') :
    nodes = others ∧ more = more' := by
  induction nodes generalizing others with
  | nil =>
    cases others with
    | nil => exact ⟨rfl, same⟩
    | cons other others =>
      rw [outlineAll, outlineAll, List.append_assoc] at same
      exact absurd same (outside.ne_append (othersPlain other List.mem_cons_self))
  | cons node nodes ih =>
    obtain ⟨first, later⟩ := List.forall_mem_cons.mp plain
    obtain ⟨firstTold, laterTold⟩ := List.forall_mem_cons.mp told
    cases others with
    | nil =>
      rw [outlineAll, outlineAll, List.append_assoc] at same
      exact absurd same.symm (outside'.ne_append first)
    | cons other others =>
      obtain ⟨otherFirst, otherLater⟩ := List.forall_mem_cons.mp othersPlain
      rw [outlineAll, outlineAll, List.append_assoc, List.append_assoc] at same
      obtain ⟨rfl, rest⟩ := firstTold otherFirst (outside_outlineAll later outside)
        (outside_outlineAll otherLater outside') same
      obtain ⟨rfl, follows⟩ := ih later laterTold otherLater rest
      exact ⟨rfl, follows⟩

theorem told_of_children (numerals : Text.Numerals Position) (plain : node.Plain)
    (told : ∀ child ∈ node.children, child.Told) : node.Told := by
  intro depth other more more' otherPlain outside outside' same
  rw [outlineAt_eq, outlineAt_eq] at same
  obtain ⟨lines, rest⟩ := List.cons.inj same
  have headings := (indented_inj plain.heading_unspaced otherPlain.heading_unspaced lines).2
  obtain ⟨children, follows⟩ :=
    outlineAll_told plain.children told otherPlain.children outside outside' rest
  exact ⟨eq_of_heading numerals plain otherPlain headings children, follows⟩

theorem Plain.told (numerals : Text.Numerals Position) (plain : node.Plain) : node.Told := by
  induction plain with
  | leaf named unbroken => exact told_of_children numerals (.leaf named unbroken) nofun
  | branch named plain ih => exact told_of_children numerals (.branch named plain) ih

end Nesting

section Breaks

variable [ToString Position] {left right node : Node Position}

theorem mem_outlineAll {depth : Nat} {nodes : List (Node Position)} {line : String} :
    line ∈ outlineAll depth nodes ↔ ∃ node ∈ nodes, line ∈ node.outlineAt depth := by
  induction nodes with
  | nil => simp [outlineAll]
  | cons node rest ih => simp [outlineAll, ih]

theorem spanText_unbroken (numerals : Text.Numerals Position) (start stop : Position) :
    '\n' ∉ (spanText start stop).toList := by
  have unbroken := numerals.not_mem '\n' (by decide) (by decide)
  simp [spanText, unbroken start, unbroken stop]

theorem Plain.indented_unbroken (numerals : Text.Numerals Position) (plain : node.Plain)
    (depth : Nat) : '\n' ∉ (indented depth node.heading).toList := by
  cases plain with
  | leaf named unbroken =>
    simp [indented, heading, named.unbroken, unbroken, spanText_unbroken numerals]
  | branch named => simp [indented, heading, named.unbroken, spanText_unbroken numerals]

theorem Plain.outlineAt_unbroken (numerals : Text.Numerals Position) (plain : node.Plain)
    (depth : Nat) : ∀ line ∈ node.outlineAt depth, '\n' ∉ line.toList := by
  induction plain generalizing depth with
  | leaf named unbroken =>
    exact List.forall_mem_singleton.mpr
      ((Plain.leaf named unbroken).indented_unbroken numerals depth)
  | branch named plain ih =>
    rw [outlineAt_eq]
    refine List.forall_mem_cons.mpr
      ⟨(Plain.branch named plain).indented_unbroken numerals depth, fun line member => ?_⟩
    obtain ⟨child, within, shown⟩ := mem_outlineAll.mp member
    exact ih child within (depth + 1) line shown

theorem outline_ne_nil (node : Node Position) : node.outline ≠ [] := by
  unfold outline
  rw [outlineAt_eq]
  exact List.cons_ne_nil _ _

theorem eq_of_outline (numerals : Text.Numerals Position) (leftPlain : left.Plain)
    (rightPlain : right.Plain) (same : left.outline = right.outline) : left = right := by
  have nothing : Outside Position 1 [] := nofun
  exact (leftPlain.told numerals rightPlain nothing nothing (congrArg (· ++ []) same)).1

theorem eq_of_outlineText (numerals : Text.Numerals Position) (leftPlain : left.Plain)
    (rightPlain : right.Plain) (same : left.outlineText = right.outlineText) : left = right :=
  eq_of_outline numerals leftPlain rightPlain
    (Text.lines_inj left.outline_ne_nil right.outline_ne_nil
      (leftPlain.outlineAt_unbroken numerals 0) (rightPlain.outlineAt_unbroken numerals 0) same)

end Breaks

/-- Two trees are shown alike only if they are the same tree, also with spans that no derivation
gives. -/
theorem outlineText_inj {left right : Node Int} (leftPlain : left.Plain)
    (rightPlain : right.Plain) : left.outlineText = right.outlineText ↔ left = right :=
  ⟨eq_of_outlineText Text.numerals_int leftPlain rightPlain, congrArg outlineText⟩

/-- A leaf inside of a branch or behind it, whose lexeme looks like the end of a line. -/
theorem outlineText_inj_lookalikes :
    let leaf : Node Int := .leaf "WORD" "a': 'b' [0, 1)" (-1) 2
    let inside : Node Int := .branch "S" (-1) 2 [.branch "T" (-1) 2 [leaf]]
    let behind : Node Int := .branch "S" (-1) 2 [.branch "T" (-1) 2 [], leaf]
    inside.Plain ∧ behind.Plain ∧
      (inside.outlineText = behind.outlineText ↔ inside = behind) ∧
      inside.outlineText ≠ behind.outlineText := by
  intro leaf inside behind
  have leafPlain : leaf.Plain := .leaf (by decide) (by decide)
  have insidePlain : inside.Plain := .branch (by decide)
    (List.forall_mem_singleton.mpr (.branch (by decide) (List.forall_mem_singleton.mpr leafPlain)))
  have behindPlain : behind.Plain := .branch (by decide)
    (List.forall_mem_cons.mpr ⟨.branch (by decide) nofun, List.forall_mem_singleton.mpr leafPlain⟩)
  have told := outlineText_inj insidePlain behindPlain
  have apart : inside ≠ behind := fun same =>
    absurd (congrArg (·.children.length) same) (by decide)
  exact ⟨insidePlain, behindPlain, told, fun same => apart (told.mp same)⟩

/-- A line break in a lexeme can make one leaf look like two. -/
example :
    let one : Node Int := .branch "S" 0 2 [.leaf "WORD" "a' [0, 1)\n  WORD:'b" 1 2]
    let two : Node Int := .branch "S" 0 2 [.leaf "WORD" "a" 0 1, .leaf "WORD" "b" 1 2]
    one.outlineText = two.outlineText ∧ one.children.length ≠ two.children.length := by decide

end Node

end Descent
