import SqlCondition.Operator.Builtin

/-!
# Configurations

The options together with the registered operators and the hooks. A hook stands
for a key: what it returns takes the place of the key's pair, and nothing does when
it returns none.

Hooks and operators are handed the options alone, so that a configuration is no part
of the type of its own hooks. For a fixed configuration this loses nothing. A hook
that looks at the hooks or operators in force always finds the same ones there, and
what it returns is then a function of key, value and options. One that is to act
otherwise in another configuration is another hook in that configuration.
-/

namespace SqlCondition

/-- What stands in the place of a mapping pair, given its key, its value and the
options. The hooks and operators in force are not handed over. They are fixed while a
condition is reduced, so a hook that looks at them may have them built in, and nothing
is lost for a fixed configuration. -/
abbrev Hook := String → Value → Options → Option Input

/-- Everything that steers how conditions become clauses: the plain options, the
hooks by the keys that they stand for, and the operators by name. -/
structure Config extends Options where
  hooks : Table Hook
  operators : Registry

namespace Config

/-- The usual configuration: the usual options, no hooks, and the built-in
operators. -/
def default : Config := ⟨Options.default, .empty, .builtin⟩

/-- The configuration with other options. -/
def withOptions (config : Config) (options : Options) : Config :=
  { config with toOptions := options }

/-- The configuration with a hook for a key; an earlier one is replaced. -/
def withHook (config : Config) (key : String) (hook : Hook) : Config :=
  { config with hooks := config.hooks.insert key hook }

/-- The shown form of a configuration. Hooks are shown as their keys. -/
def shown (config : Config) : String :=
  Text.record "Config"
    [("separator", Text.quoted config.separator),
      ("dialect", config.dialect.shown),
      ("strict", Text.shownBool config.strict),
      ("table", Text.optional (config.table.map Text.quoted)),
      ("column_aliases", Text.braced (config.aliases.entries.map fun entry =>
        Text.quoted entry.1 ++ ": " ++ Text.quoted entry.2)),
      ("custom_conditions", Text.bracketed (config.hooks.sortedNames.map Text.quoted)),
      ("operators", config.operators.shown),
      ("sort_keys", Text.shownBool config.sortKeys)]

end Config

end SqlCondition
