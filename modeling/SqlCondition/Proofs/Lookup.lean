import Mathlib.Logic.Relation
import SqlCondition.Operator.Builtin

/-!
# Where aliases lead

The aliases of a registry are a graph on its names: one hop leads from an alias to its
target when both are registered. No name has two hops, so a walk along the aliases goes
one way. It ends at an operator that is no alias, at an alias whose target is not
registered, or, when it comes to a cycle, never.

A look-up walks for at most sixteen hops. It finds the operator where the walk ends when
the walk is no longer than that, and warns and finds nothing exactly when a seventeenth
hop can be made.
-/

namespace SqlCondition.Registry

/-- One hop from an alias to its target, when both are registered. -/
def Hop (registry : Registry) (name target : String) : Prop :=
  ∃ operator next, registry.operators.get? name = some operator ∧
    operator.aliasOf = some target ∧ registry.operators.get? target = some next

/-- A walk of so many hops from one name to another. -/
inductive Walk (registry : Registry) : Nat → String → String → Prop
  | here (name : String) : Walk registry 0 name name
  | hop {name target last : String} {hops : Nat} (first : registry.Hop name target)
      (rest : Walk registry hops target last) : Walk registry (hops + 1) name last

/-- A name from which there is no hop. -/
def Final (registry : Registry) (name : String) : Prop := ∀ target, ¬ registry.Hop name target

variable {registry : Registry} {name : String} {operator next : Operator} {hops : Nat}

/-- An operator that stands for another one is behind a hop from its name, and the other one is
registered at the end of that hop. -/
theorem hop_of_hop? (registered : registry.operators.get? name = some operator)
    (hopped : registry.hop? operator = some next) :
    ∃ target, registry.Hop name target ∧ registry.operators.get? target = some next := by
  obtain ⟨target, aliased, known⟩ := Option.bind_eq_some_iff.mp hopped
  exact ⟨target, ⟨operator, next, registered, aliased, known⟩, known⟩

/-- There is at most one hop from a name, because a name has at most one operator and an
operator at most one alias. -/
theorem Hop.unique {target other : String} (hop : registry.Hop name target)
    (another : registry.Hop name other) : target = other := by
  obtain ⟨operator, _, registered, aliased, _⟩ := hop
  obtain ⟨again, _, registeredToo, aliasedToo, _⟩ := another
  have same : operator = again := Option.some.inj (registered.symm.trans registeredToo)
  exact Option.some.inj (aliased.symm.trans (same ▸ aliasedToo))

/-- There is no hop from the name of an operator that stands for no other one, or for one that
is not registered. -/
theorem final_of_stays (registered : registry.operators.get? name = some operator)
    (stays : registry.hop? operator = none) : registry.Final name := by
  rintro target ⟨own, next, found, aliased, known⟩
  have same : own = operator := Option.some.inj (found.symm.trans registered)
  rw [hop?, ← same, aliased, Option.bind_some, known] at stays
  cases stays

/-- A hop uses one of the hops that are left and goes on with the operator to which it leads. -/
theorem follow_hop (hopped : registry.hop? operator = some next) (hops : Nat) :
    registry.follow (hops + 1) operator = registry.follow hops next := by
  rw [follow, hopped]

/-- Without hops left, an operator that stands for another one leads nowhere. -/
theorem follow_exhausted (hopped : registry.hop? operator = some next) :
    registry.follow 0 operator = none := by
  rw [follow, hopped]

/-- Following the aliases of a registered operator for so many hops comes to the end of a
walk that is no longer, or there is one more hop to make. -/
theorem follow_cases {name : String} {operator : Operator} :
    ∀ hops, registry.operators.get? name = some operator →
      (∃ count last target, count ≤ hops ∧ registry.Walk count name last ∧ registry.Final last ∧
          registry.operators.get? last = some target ∧
          registry.follow hops operator = some target) ∨
        ∃ last, registry.Walk (hops + 1) name last ∧ registry.follow hops operator = none := by
  intro hops registered
  cases hopped : registry.hop? operator with
  | none =>
    exact .inl ⟨0, name, operator, Nat.zero_le hops, .here name, final_of_stays registered hopped,
      registered, follow_plain registry hops operator hopped⟩
  | some next =>
    obtain ⟨target, hop, known⟩ := hop_of_hop? registered hopped
    cases hops with
    | zero => exact .inr ⟨target, .hop hop (.here target), follow_exhausted hopped⟩
    | succ hops =>
      rw [follow_hop hopped]
      rcases follow_cases hops known with ⟨count, last, found, short, walk, final, ends⟩ |
        ⟨last, walk, exhausted⟩
      · exact .inl ⟨count + 1, last, found, Nat.succ_le_succ short, .hop hop walk, final, ends⟩
      · exact .inr ⟨last, .hop hop walk, exhausted⟩

namespace Walk

variable {first second : Nat} {last goal : String}

/-- No walk is longer than one that has come to an end. Hops are unique, so both walks go the
same way until the end is reached. -/
theorem length_le (walk : registry.Walk first name last) (final : registry.Final last)
    (other : registry.Walk second name goal) : second ≤ first := by
  induction walk generalizing second with
  | here =>
    cases other with
    | here => exact Nat.le_refl 0
    | hop hop rest => exact absurd hop (final _)
  | hop hop rest inductionHypothesis =>
    cases other with
    | here => exact Nat.zero_le _
    | hop again onward =>
      exact Nat.succ_le_succ (inductionHypothesis final (hop.unique again ▸ onward))

/-- Walks from one name that have come to an end have come to the same one, for neither is
longer than the other. -/
theorem end_unique (walk : registry.Walk first name last) (final : registry.Final last)
    (other : registry.Walk second name goal) (finalToo : registry.Final goal) : last = goal := by
  induction walk generalizing second with
  | here =>
    cases other with
    | here => rfl
    | hop hop rest => exact absurd hop (final _)
  | hop hop rest inductionHypothesis =>
    cases other with
    | here => exact absurd hop (finalToo _)
    | hop again onward => exact inductionHypothesis final (hop.unique again ▸ onward)

/-- A name from which a walk makes a hop is registered, as the name of every operator is that
stands for another. -/
theorem registered (walk : registry.Walk (hops + 1) name last) :
    ∃ operator, registry.operators.get? name = some operator := by
  cases walk with
  | hop first rest =>
    obtain ⟨operator, _, registered, _⟩ := first
    exact ⟨operator, registered⟩

end Walk

/-- From a name that leads into a cycle, or is on it, a walk may be of any length. -/
theorem walk_of_cycle {entry : String} (into : Relation.ReflTransGen registry.Hop name entry)
    (cycle : Relation.TransGen registry.Hop entry entry) (hops : Nat) :
    ∃ last, registry.Walk hops name last := by
  -- Behind every hop the cycle is still ahead.
  have ahead : Relation.TransGen registry.Hop name entry := Relation.TransGen.trans_right into cycle
  clear into
  induction hops generalizing name with
  | zero => exact ⟨name, .here name⟩
  | succ hops inductionHypothesis =>
    obtain ⟨target, hop, onward⟩ := Relation.TransGen.head'_iff.mp ahead
    obtain ⟨last, walk⟩ := inductionHypothesis (Relation.TransGen.trans_right onward cycle)
    exact ⟨last, .hop hop walk⟩

/-- A look-up finds the operator where a walk of at most sixteen hops ends. It finds nothing
exactly when the name is not registered or a walk of seventeen hops can be made, as it can from
every name on a cycle and from every name that leads into one. Of the two, it warns of the walk,
with the name that was asked for, and of nothing else.

By induction over the hops that are left, following comes to the end of a walk or runs out of
hops on one that goes on. Walks from a name are prefixes of each other, so one that ends
excludes a longer one. -/
theorem lookup_follows_aliases (registry : Registry) (name : String) :
    (∀ count last operator, count ≤ 16 → registry.Walk count name last → registry.Final last →
        registry.operators.get? last = some operator →
        registry.resolve name = (some operator, [])) ∧
      ((registry.resolve name).1 = none ↔
        registry.operators.get? name = none ∨ ∃ last, registry.Walk 17 name last) ∧
      (∀ entry, Relation.ReflTransGen registry.Hop name entry →
        Relation.TransGen registry.Hop entry entry → ∃ last, registry.Walk 17 name last) ∧
      ((registry.resolve name).2 = [.aliasTooDeep name] ↔
        registry.operators.get? name ≠ none ∧ ∃ last, registry.Walk 17 name last) ∧
      ((registry.resolve name).2 = [] ↔ ¬ ∃ last, registry.Walk 17 name last) ∧
      (Event.aliasTooDeep name).severity = .warning := by
  refine ⟨?_, ?_, fun entry into cycle => walk_of_cycle into cycle 17, ?_, ?_, rfl⟩
  · intro count last operator short walk final found
    obtain ⟨first, registered⟩ : ∃ first, registry.operators.get? name = some first := by
      cases walk with
      | here => exact ⟨operator, found⟩
      | hop hop rest => exact (Walk.hop hop rest).registered
    rcases follow_cases maxHops registered with
      ⟨_, goal, target, _, other, finalToo, known, ended⟩ | ⟨goal, other, _⟩
    · have same : target = operator :=
        Option.some.inj (known.symm.trans (walk.end_unique final other finalToo ▸ found))
      simp only [resolve, lookup, registered, ended, Lookup.operator?, Lookup.events, same]
    · exact absurd (walk.length_le final other) (Nat.not_le.mpr (Nat.lt_succ_of_le short))
  all_goals
    cases registered : registry.operators.get? name with
    | none =>
      have stuck : ¬ ∃ last, registry.Walk 17 name last := by
        rintro ⟨last, walk⟩
        obtain ⟨operator, found⟩ := walk.registered
        simp [registered] at found
      simp [resolve, lookup, registered, Lookup.operator?, Lookup.events, stuck]
    | some operator =>
      rcases follow_cases maxHops registered with ⟨_, _, _, short, walk, final, _, ended⟩ |
        ⟨last, walk, ended⟩
      · have stuck : ¬ ∃ last, registry.Walk 17 name last := by
          rintro ⟨goal, other⟩
          exact absurd (walk.length_le final other) (Nat.not_le.mpr (Nat.lt_succ_of_le short))
        simp [resolve, lookup, registered, ended, Lookup.operator?, Lookup.events, stuck]
      · have endless : ∃ last, registry.Walk 17 name last := ⟨last, walk⟩
        simp [resolve, lookup, registered, ended, Lookup.operator?, Lookup.events, endless]

/-- A registry with an alias of an alias whose target is missing, two names that stand for
each other, and a third one that stands for one of them. -/
def tangledRegistry : Registry :=
  ⟨.ofList [("via", .ofAlias "dangling"), ("dangling", (Operator.ofAlias "nope").withTemplate "?"),
    ("a", .ofAlias "b"), ("b", .ofAlias "a"), ("into", .ofAlias "a")]⟩

/-- An alias of a dangling alias is resolved to the dangling operator itself, and an alias that
leads into a cycle is resolved to none, with a warning. -/
theorem tangled_lookups :
    tangledRegistry.resolve "via" = (some ((Operator.ofAlias "nope").withTemplate "?"), []) ∧
      tangledRegistry.resolve "into" = (none, [.aliasTooDeep "into"]) := by
  have final : tangledRegistry.Final "dangling" := final_of_stays rfl rfl
  have walk : tangledRegistry.Walk 1 "via" "dangling" :=
    .hop ⟨_, _, rfl, rfl, rfl⟩ (.here "dangling")
  have found := (lookup_follows_aliases tangledRegistry "via").1 1 "dangling" _ (by decide) walk
    final rfl
  obtain ⟨_, missing, cyclic, warned, _⟩ := lookup_follows_aliases tangledRegistry "into"
  have into : tangledRegistry.Hop "into" "a" := ⟨_, _, rfl, rfl, rfl⟩
  have forth : tangledRegistry.Hop "a" "b" := ⟨_, _, rfl, rfl, rfl⟩
  have back : tangledRegistry.Hop "b" "a" := ⟨_, _, rfl, rfl, rfl⟩
  have endless := cyclic "a" (.single into) (.tail (.single forth) back)
  have registered : tangledRegistry.operators.get? "into" ≠ none := by
    rw [show tangledRegistry.operators.get? "into" = some (.ofAlias "a") from rfl]
    exact Option.some_ne_none _
  exact ⟨found, Prod.ext (missing.mpr (.inr endless)) (warned.mpr ⟨registered, endless⟩)⟩

end SqlCondition.Registry
