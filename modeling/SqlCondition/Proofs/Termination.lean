import SqlCondition.Proofs.Induction

/-!
# When a reduction ends

Reducing a node asks for the nodes directly below it and for nothing else, and there
are only finitely many of them. So a reduction ends at some depth when no way of
going below, again and again, goes on for ever. Hooks alone can make one that does,
since a hook may return a node that is larger than anything before it. But when every
hooked key in what a hook returns has a smaller rank than the key of the hook, a way
either nests less deep or goes on among keys of smaller ranks, and ends.

More depth never changes what was built, so it does not matter at which depth that
is.
-/

namespace SqlCondition

/-- From the node one cannot go below for ever. -/
abbrev Grounded (config : Config) (node : Node) : Prop :=
  Acc (fun child parent => Below config parent child) node

/-- The reduction of the node ends at some depth. -/
def Finishes (config : Config) (node : Node) : Prop :=
  ∃ depth outcome, reduce config depth node = some outcome

namespace Reduction

/-- Parts that are reduced at some depth each are reduced at one depth together, when more depth
changes nothing. The sum of all depths is one that suffices. -/
theorem of_parts_finish {α : Type} {reducePart : Nat → α → Option Outcome}
    (deeper : ∀ depth more part outcome, reducePart depth part = some outcome →
      reducePart (depth + more) part = some outcome)
    (parts : List α)
    (each : ∀ part ∈ parts, ∃ depth outcome, reducePart depth part = some outcome) :
    ∃ depth gathered, Gathered.ofParts (reducePart depth) parts = some gathered := by
  induction parts with
  | nil => exact ⟨0, _, rfl⟩
  | cons part rest inductionHypothesis =>
    obtain ⟨own, first, reduced⟩ := each part List.mem_cons_self
    obtain ⟨depth, later, gathered⟩ :=
      inductionHypothesis fun other inside => each other (List.mem_cons_of_mem part inside)
    -- The sum of both depths suffices for the first part and for the rest.
    have together : reducePart (own + depth) part = some first := deeper own depth part first reduced
    have gatheredToo : Gathered.ofParts (reducePart (own + depth)) rest = some later := by
      rw [Nat.add_comm]
      exact of_parts_extends (fun other outcome => deeper depth own other outcome) rest later gathered
    cases ended : first.issue with
    | some issue =>
      exact ⟨own + depth, _,
        Gathered.of_parts_cons_iff.mpr ⟨first, together, .inl ⟨issue, ended, rfl⟩⟩⟩
    | none =>
      exact ⟨own + depth, _,
        Gathered.of_parts_cons_iff.mpr ⟨first, together, .inr ⟨ended, later, gatheredToo, rfl⟩⟩⟩

/-- An input is reduced at some depth when the node that it is taken for is. One that is refused
needs no depth. -/
theorem of_input_finishes {config : Config} {input : Input}
    (child : ∀ node, Node.ofInput input [] false = .ok node → Finishes config node) :
    ∃ depth outcome, ofInput (reduce config depth) config input = some outcome := by
  unfold ofInput
  cases taken : Node.ofInput input [] false with
  | ok node => exact child node taken
  | error issue => exact ⟨0, _, rfl⟩

/-- Inputs are reduced at one depth together when the nodes that they are taken for are, however
different the depths are at which each of them is. -/
theorem of_inputs_finish {config : Config} {children : List Input}
    (below : ∀ item ∈ children, ∀ node, Node.ofInput item [] false = .ok node →
      Finishes config node) :
    ∃ depth gathered,
      Gathered.ofParts (ofInput (reduce config depth) config) children = some gathered := by
  apply of_parts_finish
  · intro depth more item outcome reduced
    exact of_input_extends (reduce_deeper config depth more) config item outcome reduced
  · intro item member
    exact of_input_finishes (below item member)

/-- So are the pairs of a mapping when what their hooks return is. A pair without a hook is a
comparison, and ends at once. -/
theorem of_pairs_finish {config : Config} {fields : Table Value} {negated : Bool}
    (below : ∀ node, Below config (.map fields negated) node → Finishes config node) :
    ∃ depth gathered,
      Gathered.ofParts (ofPair (reduce config depth) config) (pairs config fields) =
        some gathered := by
  apply of_parts_finish
  · intro depth more pair outcome reduced
    exact of_pair_extends (reduce_deeper config depth more) config pair outcome reduced
  · intro pair member
    have entry : (pair.1, pair.2) ∈ fields.entries := mem_pairs.mp member
    unfold ofPair
    cases registered : config.hooks.get? pair.1 with
    | none => exact ⟨0, _, rfl⟩
    | some hook =>
      dsimp only
      cases returned : hook pair.1 pair.2 config.toOptions with
      | none => exact ⟨0, _, rfl⟩
      | some input =>
        exact of_input_finishes fun node taken =>
          below node (.hooked entry registered returned taken)

/-- A node is reduced at some depth when the nodes directly below it are: one deeper than all of
them need. -/
theorem finishes_of_below {config : Config} {node : Node}
    (below : ∀ child, Below config node child → Finishes config child) :
    Finishes config node := by
  cases node with
  | raw sql values negated => exact ⟨1, _, rfl⟩
  | and children bare negated =>
    obtain ⟨depth, gathered, reached⟩ := of_inputs_finish fun item member child taken =>
      below child (.conjunct member taken)
    exact ⟨depth + 1, _, Option.map_eq_some_iff.mpr ⟨gathered, reached, rfl⟩⟩
  | or children negated =>
    obtain ⟨depth, gathered, reached⟩ := of_inputs_finish fun item member child taken =>
      below child (.alternative member taken)
    exact ⟨depth + 1, _, Option.map_eq_some_iff.mpr ⟨gathered, reached, rfl⟩⟩
  | map fields negated =>
    obtain ⟨depth, gathered, reached⟩ := of_pairs_finish below
    exact ⟨depth + 1, _, Option.map_eq_some_iff.mpr ⟨gathered, reached, rfl⟩⟩

end Reduction

/-- The reduction of a node ends when one cannot go below it for ever. By induction over the
nodes below it. -/
theorem Grounded.finishes {config : Config} {node : Node} (grounded : Grounded config node) :
    Finishes config node := by
  induction grounded with
  | intro node _ inductionHypothesis => exact Reduction.finishes_of_below inductionHypothesis

/-! ## Hooks that descend -/

mutual

/-- How deep lists and nodes nest in an input. -/
def Input.height : Input → Nat
  | .list items => Input.heights items + 1
  | .node node => node.height
  | .fields _ | .text _ | .value _ => 0

/-- How deep lists and nodes nest in a node. -/
def Node.height : Node → Nat
  | .and children _ _ | .or children _ => Input.heights children + 1
  | .map _ _ | .raw _ _ _ => 0

/-- How deep lists and nodes nest in any of several inputs. -/
def Input.heights : List Input → Nat
  | [] => 0
  | item :: rest => max item.height (Input.heights rest)

end

/-- An item of a list nests no deeper than the list, whose height is that of its deepest item. -/
theorem Input.height_le_heights {item : Input} {items : List Input} (member : item ∈ items) :
    item.height ≤ Input.heights items := by
  induction items with
  | nil => cases member
  | cons first rest inductionHypothesis =>
    rw [Input.heights]
    rcases List.mem_cons.mp member with rfl | inside
    · exact Nat.le_max_left _ _
    · exact Nat.le_trans (inductionHypothesis inside) (Nat.le_max_right _ _)

/-- The node that an input is taken for nests no deeper than the input. Taking an input for a
node wraps nothing around it. -/
theorem Node.height_le_of_input {input : Input} {values : List Value} {negated : Bool} {node : Node}
    (accepted : Node.ofInput input values negated = .ok node) : node.height ≤ input.height := by
  cases Node.of_input_taken accepted with
  | node node => exact Nat.le_refl _
  | fields fields => exact Nat.zero_le _
  | alternatives apart => exact Nat.le_refl _
  | list split fits => exact Nat.zero_le _
  | text spelled fits => exact Nat.zero_le _

mutual

/-- The keys of all mappings in an input. -/
def Input.keys : Input → List String
  | .fields fields => fields.names
  | .list items => Input.allKeys items
  | .node node => node.keys
  | .text _ | .value _ => []

/-- The keys of all mappings in a node. -/
def Node.keys : Node → List String
  | .and children _ _ | .or children _ => Input.allKeys children
  | .map fields _ => fields.names
  | .raw _ _ _ => []

/-- The keys of all mappings in several inputs. -/
def Input.allKeys : List Input → List String
  | [] => []
  | item :: rest => item.keys ++ Input.allKeys rest

end

/-- The keys in an item of a list are keys in the list, which has those of all its items. -/
theorem Input.keys_subset_all_keys {item : Input} {items : List Input} (member : item ∈ items) :
    item.keys ⊆ Input.allKeys items := by
  induction items with
  | nil => cases member
  | cons first rest inductionHypothesis =>
    rw [Input.allKeys]
    rcases List.mem_cons.mp member with rfl | inside
    · exact List.subset_append_left _ _
    · exact List.Subset.trans (inductionHypothesis inside) (List.subset_append_right _ _)

/-- The keys in the node that an input is taken for are keys in the input. Raw SQL has none. -/
theorem Node.keys_subset_of_input {input : Input} {values : List Value} {negated : Bool}
    {node : Node} (accepted : Node.ofInput input values negated = .ok node) :
    node.keys ⊆ input.keys := by
  cases Node.of_input_taken accepted with
  | node node => exact List.Subset.refl _
  | fields fields => exact List.Subset.refl _
  | alternatives apart => exact List.Subset.refl _
  | list split fits => exact List.nil_subset _
  | text spelled fits => exact List.nil_subset _

/-- The hooks descend along a rank: where the hook of a key returns something, every key
in it that has a hook too has a smaller rank than the key. -/
def Config.Descends (config : Config) (rank : String → Nat) : Prop :=
  ∀ key hook, config.hooks.get? key = some hook →
    ∀ operand input, hook key operand config.toOptions = some input →
      ∀ other ∈ input.keys, config.hooks.contains other = true → rank other < rank key

/-- The keys in a node that have a hook have ranks below a bound. -/
def Node.Under (config : Config) (rank : String → Nat) (bound : Nat) (node : Node) : Prop :=
  ∀ key ∈ node.keys, config.hooks.contains key = true → rank key < bound

/-- Going below a node one stays among its keys and nests less deep, or else the hook of
one of its keys leads to keys of smaller ranks. -/
theorem Below.descends {config : Config} {rank : String → Nat} (descends : config.Descends rank)
    {node child : Node} (below : Below config node child) :
    (child.keys ⊆ node.keys ∧ child.height < node.height) ∨
      ∃ key ∈ node.keys, config.hooks.contains key = true ∧
        child.Under config rank (rank key) := by
  cases below with
  | conjunct member taken | alternative member taken =>
    refine .inl ⟨?_, ?_⟩
    · exact List.Subset.trans (Node.keys_subset_of_input taken) (Input.keys_subset_all_keys member)
    · rw [Node.height]
      exact Nat.lt_succ_of_le
        (Nat.le_trans (Node.height_le_of_input taken) (Input.height_le_heights member))
  | @hooked fields negated key operand hook item child member registered returned taken =>
    have hooked : config.hooks.contains key = true := by rw [Table.contains, registered]; rfl
    refine .inr ⟨key, List.mem_map_of_mem member, hooked, fun other inside => ?_⟩
    exact descends key hook registered operand item returned other
      (Node.keys_subset_of_input taken inside)

/-- From a node whose keys have ranks below a bound one cannot go below for ever when the hooks
descend. By induction over the bound, and over the height of the node inside. -/
theorem Node.Under.grounded {config : Config} {rank : String → Nat}
    (descends : config.Descends rank) {bound : Nat} {node : Node}
    (under : node.Under config rank bound) : Grounded config node := by
  -- A hook lowers the bound, however large the node that it returns is. As long as no hook is
  -- asked the bound stays, and the height is less each time.
  induction bound using Nat.strongRecOn generalizing node with
  | _ bound lower =>
    induction height : node.height using Nat.strongRecOn generalizing node with
    | _ depth flatter =>
      refine .intro node fun child below => ?_
      rcases below.descends descends with ⟨keys, flat⟩ | ⟨key, inside, hooked, less⟩
      · exact flatter child.height (height ▸ flat) (fun key own => under key (keys own)) rfl
      · exact lower (rank key) (under key inside hooked) less

/-- When the hooks descend one cannot go below any node for ever. Its keys are finitely many, so
their ranks have a bound. -/
theorem grounded_of_descends {config : Config} {rank : String → Nat}
    (descends : config.Descends rank) (node : Node) : Grounded config node := by
  have under : node.Under config rank ((node.keys.map rank).max?.getD 0 + 1) := by
    intro key inside _
    exact Nat.lt_succ_of_le (List.le_max?_getD_of_mem (List.mem_map_of_mem inside))
  exact under.grounded descends

/-- Without hooks one cannot either, since there are none that could fail to descend. -/
theorem grounded_of_unhooked {config : Config} (unhooked : ∀ key, config.hooks.get? key = none)
    (node : Node) : Grounded config node := by
  have descends : config.Descends fun _ => 0 := by
    intro key hook registered
    rw [unhooked] at registered
    cases registered
  exact grounded_of_descends descends node

/-! ## Building -/

/-- What was built stays the same at any greater depth. So no two depths build different
results. -/
theorem build_deeper (config : Config) (depth more : Nat) (input : Input) (values : List Value)
    (negated : Bool) (result : Built × List Event)
    (finished : build depth config input values negated = some result) :
    build (depth + more) config input values negated = some result := by
  unfold build at finished ⊢
  cases taken : Node.ofInput input values negated with
  | error issue => simpa only [taken] using finished
  | ok node =>
    simp only [taken, Option.map_eq_some_iff] at finished ⊢
    obtain ⟨outcome, reduced, same⟩ := finished
    exact ⟨outcome, reduce_deeper config depth more node outcome reduced, same⟩

/-- Something is built at some depth when the reduction of the node that the input is taken for
ends. An input that is refused is built at once. -/
theorem build_finishes {config : Config} {input : Input} {values : List Value} {negated : Bool}
    (ends : ∀ node, Node.ofInput input values negated = .ok node → Finishes config node) :
    ∃ depth result, build depth config input values negated = some result := by
  unfold build
  cases taken : Node.ofInput input values negated with
  | error issue => exact ⟨0, _, rfl⟩
  | ok node =>
    obtain ⟨depth, outcome, reduced⟩ := ends node taken
    exact ⟨depth, _, Option.map_eq_some_iff.mpr ⟨outcome, reduced, rfl⟩⟩

/-- From some depth on the result is always the same then, clause, issue and log. -/
theorem build_settles {config : Config} {input : Input} {values : List Value} {negated : Bool}
    (ends : ∀ node, Node.ofInput input values negated = .ok node → Finishes config node) :
    ∃ enough built log, ∀ depth, enough ≤ depth →
      build depth config input values negated = some (built, log) := by
  obtain ⟨enough, ⟨built, log⟩, finished⟩ := build_finishes ends
  refine ⟨enough, built, log, fun depth deep => ?_⟩
  exact Nat.add_sub_of_le deep ▸ build_deeper config enough (depth - enough) input values negated
    (built, log) finished

/-- Hooks that descend along a rank terminate: on every input, strictly or leniently, building
has one result from some depth on.

Going below a node, one goes to something flatter with the same keys, or over a hook to keys of
smaller ranks, however large the node that the hook returns is. Neither goes on for ever, and a
reduction asks for nothing but the nodes below. -/
theorem descending_hooks_terminate (config : Config) (rank : String → Nat)
    (descends : config.Descends rank) (input : Input) (values : List Value) (negated : Bool) :
    ∃ enough built log, ∀ depth, enough ≤ depth →
      build depth config input values negated = some (built, log) := by
  apply build_settles
  intro node _
  exact (grounded_of_descends descends node).finishes

/-- Where the hook of a key returns this key again, building ends at no depth. So the depth is
no bound that would end a condition by itself. -/
theorem own_key_never_ends (config : Config) (key : String) (hook : Hook)
    (registered : config.hooks.get? key = some hook)
    (returns : ∀ operand,
      hook key operand config.toOptions = some (.fields (.ofList [(key, operand)])))
    (operand : Value) (values : List Value) (negated : Bool) (depth : Nat) :
    build depth config (.fields (.ofList [(key, operand)])) values negated = none := by
  have unfinished : reduce config depth (.map (.ofList [(key, operand)]) negated) = none := by
    induction depth generalizing negated with
    | zero => rfl
    | succ depth inductionHypothesis =>
      have alone : Reduction.pairs config (.ofList [(key, operand)]) = [(key, operand)] := by
        unfold Reduction.pairs
        split
        · exact List.mergeSort_singleton _
        · rfl
      have again : Reduction.ofPair (reduce config depth) config (key, operand) = none := by
        simp only [Reduction.ofPair, registered, returns, Reduction.ofInput, Node.ofInput]
        exact inductionHypothesis false
      simp only [reduce, Reduction.ofNode, alone, Gathered.ofParts, again, Option.map_none]
  simp only [build, Node.ofInput, unfinished, Option.map_none]

/-- Hooks of which each may return keys of the ones before it. The second one looks at
the strict option. -/
def layeredHooks : List (String × Hook) :=
  [("banned", fun _ _ _ => some (.text "banned_at IS NOT NULL")),
    ("active", fun _ operand options =>
      some (if options.strict then .fields (.ofList [("banned", operand), ("seen__nope", operand)])
        else .list [.fields (.ofList [("seen__gt", operand)]), .value .null])),
    ("member", fun _ operand _ =>
      some (.list [.node (.and [.fields (.ofList [("banned", operand)])] false true),
        .list [.fields (.ofList [("age__gt", .int 18), ("active", operand)])]]))]

def layeredConfig (strict : Bool) : Config :=
  { Config.default.withOptions { Options.default with strict := strict } with
    hooks := .ofList layeredHooks }

def layeredRank (key : String) : Nat :=
  if key = "member" then 2 else if key = "active" then 1 else 0

/-- Its hooks descend along the rank, under either option: what each returns has hooked keys
only of the layers below. -/
theorem layered_descends (strict : Bool) : (layeredConfig strict).Descends layeredRank := by
  intro key hook registered operand input returned
  have listed : (key, hook) ∈ layeredHooks :=
    Table.mem_of_get?_of_list layeredHooks key hook registered
  simp only [layeredHooks, List.mem_cons, Prod.mk.injEq, List.not_mem_nil, or_false] at listed
  have second : ∀ other ∈ ["banned", "seen__nope", "seen__gt"], layeredRank other < 1 := by decide
  have third : ∀ other ∈ ["banned", "age__gt", "active"], layeredRank other < 2 := by decide
  rcases listed with ⟨rfl, rfl⟩ | ⟨rfl, rfl⟩ | ⟨rfl, rfl⟩ <;> cases returned
  · exact fun other inside => nomatch inside
  · intro other inside _
    apply second
    cases strict with
    | true => exact List.mem_append_left ["seen__gt"] inside
    | false => exact List.mem_append_right ["banned", "seen__nope"] inside
  · exact fun other inside _ => third other inside

/-- A list with hooked keys in both items. -/
def layeredInput : Input :=
  .list [.fields (.ofList [("member", .int 1), ("name", .text "x")]),
    .fields (.ofList [("active", .int 2)])]

/-- Both ways of building end, though the hooks nest and one of them looks at the option. The
strict one ends at the unknown operator that this hook returns. -/
theorem layered_hooks_terminate :
    (∀ strict, (layeredConfig strict).Descends layeredRank) ∧
      (∃ enough built log,
        (∀ depth, enough ≤ depth →
          build depth (layeredConfig false) layeredInput [] true = some (built, log)) ∧
        built.clause.sql = "NOT (((NOT (((banned_at IS NOT NULL))) OR ((\"age\" > ? AND " ++
          "((\"seen\" > ?))))) AND \"name\" = ?) OR (((\"seen\" > ?))))" ∧
        built.issue = none) ∧
      ∃ enough built log,
        (∀ depth, enough ≤ depth →
          build depth (layeredConfig true) layeredInput [] true = some (built, log)) ∧
        built.clause.sql = "NOT (((NOT (((banned_at IS NOT NULL))) OR ((\"age\" > ? AND " ++
          "((banned_at IS NOT NULL)))))))" ∧
        built.issue = some (.invalid (.text "seen__nope") (some [.int 1])) := by
  have ends (strict : Bool) (built : Built) (log : List Event)
      (shallow : build 7 (layeredConfig strict) layeredInput [] true = some (built, log)) :
      ∃ enough, ∀ depth, enough ≤ depth →
        build depth (layeredConfig strict) layeredInput [] true = some (built, log) := by
    obtain ⟨enough, other, otherLog, finished⟩ := descending_hooks_terminate (layeredConfig strict)
      layeredRank (layered_descends strict) layeredInput [] true
    have deep := build_deeper _ 7 enough _ _ _ _ shallow
    rw [finished (7 + enough) (Nat.le_add_left _ _)] at deep
    cases deep
    exact ⟨enough, finished⟩
  obtain ⟨_, lenient⟩ := ends false _ _ rfl
  obtain ⟨_, strict⟩ := ends true _ _ rfl
  exact ⟨layered_descends, ⟨_, _, _, lenient, by decide +kernel, rfl⟩, _, _, _, strict,
    by decide +kernel, rfl⟩

end SqlCondition
