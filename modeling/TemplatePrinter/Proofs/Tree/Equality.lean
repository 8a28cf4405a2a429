import TemplatePrinter.Node.Equality
import TemplatePrinter.Printer.Render
import TemplatePrinter.Proofs.Tree.Numbers
/-!
# What equality of trees tells

Equality compares numbers as IEEE 754 does, and everything else as it is. So it is not the identity
of trees, and not even reflexive. `Node.equals_iff` says what it is instead: the identity up to the
signs of zeros, on the trees without NaNs. That it is symmetric and transitive follows, and so does
where it is reflexive. Only the sign of a zero can be told from the output of one of two equal trees
and not from that of the other; without zeros, equal trees are the same tree.
-/

namespace TemplatePrinter

/-! ### Zeros without signs -/

namespace Binary64

/-- The number, with zero for its opposite. -/
def unsignZero (x : Binary64) : Binary64 :=
  if x.isZero then ⟨0⟩ else x

theorem isZero_unsignZero (x : Binary64) : x.unsignZero.isZero = x.isZero := by
  unfold unsignZero
  cases hzero : x.isZero with
  | true => rw [if_pos rfl]; decide
  | false => rw [if_neg (by decide), hzero]

theorem equals_iff {x y : Binary64} :
    x.equals y ↔ (x.isNaN = false ∧ y.isNaN = false) ∧ x.unsignZero = y.unsignZero := by
  have hsame : (x == y || (x.isZero && y.isZero)) ↔ x.unsignZero = y.unsignZero := by
    rw [Bool.or_eq_true, beq_iff_eq, Bool.and_eq_true]
    constructor
    · rintro (rfl | ⟨hx, hy⟩)
      · rfl
      · rw [unsignZero, unsignZero, if_pos hx, if_pos hy]
    · intro h
      have hzeros : x.isZero = y.isZero := by
        rw [← isZero_unsignZero x, h, isZero_unsignZero]
      cases hx : x.isZero with
      | true => exact .inr ⟨rfl, hzeros ▸ hx⟩
      | false =>
        left
        rw [unsignZero, unsignZero, ← hzeros, hx] at h
        exact h
  simp only [equals, Bool.and_eq_true, Bool.not_eq_true', hsame]

end Binary64

/-- The tree with zero for its opposite, wherever it holds one. -/
def Node.unsignZeros (node : Node) : Node :=
  node.mapNumbers Binary64.unsignZero

/-! ### What equality compares -/

mutual

/-- Two trees are equal if and only if neither holds a NaN and they differ in signs of zeros alone.
-/
theorem Node.equals_iff (a b : Node) :
    a.equals b ↔ (a.NaNFree ∧ b.NaNFree) ∧ a.unsignZeros = b.unsignZeros := by
  simp only [Node.naNFree_iff, Node.unsignZeros]
  match a with
  | .program p =>
    cases b with
    | program p' =>
      simp only [Node.equals, p.equals_iff p', Node.isNotNaN, Node.children, Node.mapNumbers,
        Node.program.injEq, true_and]
    | _ => simp [Node.equals, Node.mapNumbers]
  | .block block =>
    cases b with
    | block block' =>
      simp only [Node.equals, block.equals_iff block', Node.isNotNaN, Node.mapNumbers,
        Node.block.injEq, true_and]
    | _ => simp [Node.equals, Node.mapNumbers]
  | .mustache path args escaped =>
    cases b with
    | mustache path' args' escaped' =>
      simp only [Node.equals, Bool.and_eq_true, beq_iff_eq, args.equals_iff args', Node.isNotNaN,
        Node.children, Node.mapNumbers, Node.mustache.injEq, true_and]
      grind
    | _ => simp [Node.equals, Node.mapNumbers]
  | .sub callee args =>
    cases b with
    | sub callee' args' =>
      simp only [Node.equals, Bool.and_eq_true, beq_iff_eq, args.equals_iff args', Node.isNotNaN,
        Node.children, Node.mapNumbers, Node.sub.injEq, true_and]
      grind
    | _ => simp [Node.equals, Node.mapNumbers]
  | .partialTag name args =>
    cases b with
    | partialTag name' args' =>
      simp only [Node.equals, Bool.and_eq_true, name.equals_iff name', args.equals_iff args',
        Node.isNotNaN, Node.children, Node.mapNumbers, Node.partialTag.injEq, areNaNFree_append,
        true_and]
      grind
    | _ => simp [Node.equals, Node.mapNumbers]
  | .partialBlock name args fallback =>
    cases b with
    | partialBlock name' args' fallback' =>
      simp only [Node.equals, Bool.and_eq_true, name.equals_iff name', args.equals_iff args',
        fallback.equals_iff fallback', Node.isNotNaN, Node.children, Node.mapNumbers,
        Node.partialBlock.injEq, areNaNFree_append, true_and]
      grind
    | _ => simp [Node.equals, Node.mapNumbers]
  | .number value =>
    cases b with
    | number value' =>
      simp [Node.equals, Binary64.equals_iff, Node.isNotNaN, Node.children, Node.mapNumbers]
    | _ => simp [Node.equals, Node.mapNumbers]
  | .content _ | .comment _ | .path _ | .string _ | .boolean _ | .undefined | .null | .unknown =>
    cases b <;> simp [Node.equals, Node.isNotNaN, Node.children, Node.mapNumbers]

theorem Program.equals_iff (a b : Program) :
    a.equals b ↔ (AreNaNFree a.body ∧ AreNaNFree b.body) ∧
      a.mapNumbers Binary64.unsignZero = b.mapNumbers Binary64.unsignZero := by
  match a, b with
  | ⟨body, names⟩, ⟨body', names'⟩ =>
    simp only [Program.equals, Bool.and_eq_true, beq_iff_eq, equalNodes_iff body body',
      Program.mapNumbers, Program.mk.injEq]
    grind

theorem Block.equals_iff (a b : Block) :
    a.equals b ↔ (AreNaNFree (Node.block a).children ∧ AreNaNFree (Node.block b).children) ∧
      a.mapNumbers Binary64.unsignZero = b.mapNumbers Binary64.unsignZero := by
  match a, b with
  | ⟨path, args, main, inverse⟩, ⟨path', args', main', inverse'⟩ =>
    simp only [Block.equals, Bool.and_eq_true, beq_iff_eq, args.equals_iff args',
      main.equals_iff main', equalInverses_iff inverse inverse', Node.children, areNaNFree_append,
      Block.mapNumbers, Block.mk.injEq]
    grind

theorem Arguments.equals_iff (a b : Arguments) :
    a.equals b ↔ (AreNaNFree a.children ∧ AreNaNFree b.children) ∧
      a.mapNumbers Binary64.unsignZero = b.mapNumbers Binary64.unsignZero := by
  match a, b with
  | ⟨params, none⟩, ⟨params', none⟩ =>
    simp [Arguments.equals, equalNodes_iff params params', Arguments.children, Arguments.pairs,
      Arguments.mapNumbers]
  | ⟨params, some pairs⟩, ⟨params', some pairs'⟩ =>
    simp only [Arguments.equals, Bool.and_eq_true, equalNodes_iff params params',
      equalPairs_iff pairs pairs', Arguments.children, Arguments.pairs, areNaNFree_append,
      Arguments.mapNumbers, Arguments.mk.injEq, Option.some.injEq]
    grind
  | ⟨params, none⟩, ⟨params', some pairs'⟩ => simp [Arguments.equals, Arguments.mapNumbers]
  | ⟨params, some pairs⟩, ⟨params', none⟩ => simp [Arguments.equals, Arguments.mapNumbers]

theorem PartialName.equals_iff (a b : PartialName) :
    a.equals b ↔ (AreNaNFree a.children ∧ AreNaNFree b.children) ∧
      a.mapNumbers Binary64.unsignZero = b.mapNumbers Binary64.unsignZero := by
  match a, b with
  | .path text, .path text' =>
    simp [PartialName.equals, PartialName.children, PartialName.mapNumbers]
  | .sub callee args, .sub callee' args' =>
    simp only [PartialName.equals, Bool.and_eq_true, beq_iff_eq, args.equals_iff args',
      PartialName.children, PartialName.mapNumbers, PartialName.sub.injEq]
    grind
  | .path _, .sub _ _ | .sub _ _, .path _ => simp [PartialName.equals, PartialName.mapNumbers]

theorem equalInverses_iff (a b : Option Program) :
    equalInverses a b ↔ (AreNaNFree (inverseBody a) ∧ AreNaNFree (inverseBody b)) ∧
      mapInverseNumbers Binary64.unsignZero a = mapInverseNumbers Binary64.unsignZero b := by
  match a, b with
  | none, none => simp [equalInverses, inverseBody]
  | some p, some p' =>
    simp only [equalInverses, p.equals_iff p', inverseBody, mapInverseNumbers, Option.some.injEq]
  | none, some _ | some _, none => simp [equalInverses, mapInverseNumbers]

theorem equalNodes_iff (a b : List Node) :
    equalNodes a b ↔ (AreNaNFree a ∧ AreNaNFree b) ∧
      mapNumbersOf Binary64.unsignZero a = mapNumbersOf Binary64.unsignZero b := by
  match a, b with
  | [], [] => simp [equalNodes]
  | node :: rest, node' :: rest' =>
    simp only [equalNodes, Bool.and_eq_true, node.equals_iff node', equalNodes_iff rest rest',
      areNaNFree_cons, mapNumbersOf, List.cons.injEq, Node.unsignZeros]
    grind
  | [], _ :: _ | _ :: _, [] => simp [equalNodes, mapNumbersOf]

theorem equalPairs_iff (a b : List Pair) :
    equalPairs a b ↔ (AreNaNFree (a.map Pair.value) ∧ AreNaNFree (b.map Pair.value)) ∧
      mapPairNumbers Binary64.unsignZero a = mapPairNumbers Binary64.unsignZero b := by
  match a, b with
  | [], [] => simp [equalPairs]
  | ⟨key, value⟩ :: rest, ⟨key', value'⟩ :: rest' =>
    simp only [equalPairs, Bool.and_eq_true, beq_iff_eq, value.equals_iff value',
      equalPairs_iff rest rest', List.map_cons, areNaNFree_cons, mapPairNumbers, List.cons.injEq,
      Pair.mk.injEq, Node.unsignZeros]
    grind
  | [], ⟨_, _⟩ :: _ | ⟨_, _⟩ :: _, [] => simp [equalPairs, mapPairNumbers]

end

theorem Node.equals_self_iff {node : Node} : node.equals node ↔ node.NaNFree := by
  simp [Node.equals_iff]

/-! ### Trees without zeros -/

/-- No number of the tree is a zero. -/
def Node.ZeroFree (node : Node) : Prop :=
  ∀ value, .number value ∈ node.nodes → value.isZero = false

theorem Node.unsignZeros_of_zeroFree {node : Node} (hnode : node.ZeroFree) :
    node.unsignZeros = node := by
  refine Node.mapNumbers_eq_self fun value hvalue => ?_
  rw [Binary64.unsignZero, hnode value hvalue]
  rfl

theorem Node.zeroFree_of_unsignZeros {node : Node} (hnode : node.unsignZeros.ZeroFree) :
    node.ZeroFree := by
  intro value hvalue
  have himage : .number value.unsignZero ∈ node.unsignZeros.nodes := by
    rw [Node.unsignZeros, Node.nodes_mapNumbers]
    exact List.mem_map_of_mem hvalue
  rw [← Binary64.isZero_unsignZero]
  exact hnode _ himage

/-- Zeros are all that equality confuses. -/
theorem Node.eq_of_equals {a b : Node} (hequal : a.equals b) (ha : a.ZeroFree) : a = b := by
  have hsame : a = b.unsignZeros := by
    rw [← ((Node.equals_iff a b).mp hequal).2, Node.unsignZeros_of_zeroFree ha]
  have hb : b.ZeroFree := Node.zeroFree_of_unsignZeros (hsame ▸ ha)
  rw [hsame, Node.unsignZeros_of_zeroFree hb]

/-! ### Equality and printing -/

/-- **Equality is a partial equivalence that printing respects.** It is symmetric and transitive, it
is reflexive at the trees without NaNs alone, and equal trees without zeros have the same text and
the same events, with any rule and with none. -/
theorem equals_partialEquivalence (a b c : Node) :
    (a.equals b → b.equals a) ∧ (a.equals b → b.equals c → a.equals c) ∧
      (a.equals a ↔ ∀ value, .number value ∈ a.nodes → value.isNaN = false) ∧
      (a.equals b → (∀ value, .number value ∈ a.nodes → value.isZero = false) →
        ∀ rule, print rule (some a) = print rule (some b)) := by
  refine ⟨?symm, ?trans, Node.equals_self_iff, ?printing⟩
  case symm =>
    intro hab
    obtain ⟨⟨ha, hb⟩, hsame⟩ := (Node.equals_iff a b).mp hab
    exact (Node.equals_iff b a).mpr ⟨⟨hb, ha⟩, hsame.symm⟩
  case trans =>
    intro hab hbc
    obtain ⟨⟨ha, -⟩, hsame⟩ := (Node.equals_iff a b).mp hab
    obtain ⟨⟨-, hc⟩, hsame'⟩ := (Node.equals_iff b c).mp hbc
    exact (Node.equals_iff a c).mpr ⟨⟨ha, hc⟩, hsame.trans hsame'⟩
  case printing =>
    intro hab hzeros rule
    rw [Node.eq_of_equals hab hzeros]

/-- A call with a number for its parameter and a number for the value of its pair. -/
def roundCall (value digits : Binary64) : Node :=
  .sub "round" ⟨[.number value], some [⟨"digits", .number digits⟩]⟩

/-- Three calls with zeros of different signs, and one without a zero. -/
theorem equals_roundCall :
    let zero : Binary64 := ⟨0⟩
    let two : Binary64 := ⟨0x4000000000000000⟩
    let a := roundCall zero zero
    let b := roundCall zero zero.negate
    let c := roundCall zero.negate zero.negate
    let d := roundCall two two.negate
    (a.equals b ∧ b.equals a) ∧ (b.equals c ∧ a.equals c) ∧
      (a.equals a ∧ ∀ value, .number value ∈ a.nodes → value.isNaN = false) ∧
      (d.equals d ∧ (∀ value, .number value ∈ d.nodes → value.isZero = false) ∧
        ∀ rule, print rule (some d) = print rule (some d)) := by
  intro zero two a b c d
  have hab : a.equals b := by decide +kernel
  have hbc : b.equals c := by decide +kernel
  have haa : a.equals a := by decide +kernel
  have hdd : d.equals d := by decide +kernel
  have hnonzero : ∀ value, .number value ∈ d.nodes → value.isZero = false := by
    have htwo : two.isZero = false ∧ two.negate.isZero = false := by decide
    simpa [d, roundCall, Node.nodes_eq, Node.children, Arguments.children, Arguments.pairs]
      using htwo
  obtain ⟨hsymm, htrans, hself, -⟩ := equals_partialEquivalence a b c
  exact ⟨⟨hab, hsymm hab⟩, ⟨hbc, htrans hab hbc⟩, ⟨haa, hself.mp haa⟩, hdd, hnonzero,
    (equals_partialEquivalence d d d).2.2.2 hdd hnonzero⟩

/-- The sign of a zero is printed, so equal trees with zeros may have different texts. -/
example :
    let zero : Binary64 := ⟨0⟩
    (roundCall zero zero).equals (roundCall zero zero.negate) ∧
      (roundCall zero zero).text none ≠ (roundCall zero zero.negate).text none := by
  decide +kernel

end TemplatePrinter
