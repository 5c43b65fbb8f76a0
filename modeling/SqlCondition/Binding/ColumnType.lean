/-!
# Column types

The types of database columns to which values are bound, by their names. Some
scalar types take values in a form of their own; all others are alike. The name of
an array type is an underscore before the name of its element type; two vector
types are arrays whose first index is zero.
-/

namespace SqlCondition

/-- A type whose values are not arrays. -/
inductive ScalarType
  | int2
  | int4
  | int8
  | float4
  | float8
  | text
  | varchar
  | bpchar
  | date
  | timestamp
  /-- A type that takes values as they are. -/
  | other (name : String) (number : Nat)
  deriving DecidableEq

namespace ScalarType

/-- The name of a type. -/
def name : ScalarType → String
  | .int2 => "int2"
  | .int4 => "int4"
  | .int8 => "int8"
  | .float4 => "float4"
  | .float8 => "float8"
  | .text => "text"
  | .varchar => "varchar"
  | .bpchar => "bpchar"
  | .date => "date"
  | .timestamp => "timestamp"
  | .other name _ => name

/-- The number by which the database knows a type. -/
def number : ScalarType → Nat
  | .int2 => 21
  | .int4 => 23
  | .int8 => 20
  | .float4 => 700
  | .float8 => 701
  | .text => 25
  | .varchar => 1043
  | .bpchar => 1042
  | .date => 1082
  | .timestamp => 1114
  | .other _ number => number

/-- The types with a form of their own. -/
def special : List ScalarType :=
  [.int2, .int4, .int8, .float4, .float8, .text, .varchar, .bpchar, .date, .timestamp]

/-- The numbers of common types that take values as they are. -/
def otherNumbers : List (String × Nat) :=
  [("bool", 16), ("bytea", 17), ("char", 18), ("name", 19), ("oid", 26), ("json", 114), ("xml", 142),
    ("cidr", 650), ("money", 790), ("macaddr", 829), ("inet", 869), ("time", 1083),
    ("timestamptz", 1184), ("interval", 1186), ("timetz", 1266), ("bit", 1560), ("varbit", 1562),
    ("numeric", 1700), ("uuid", 2950), ("jsonb", 3802)]

/-- The type of a name. -/
def ofName (name : String) : ScalarType :=
  match special.find? fun type => type.name = name with
  | some type => type
  | none => .other name ((otherNumbers.lookup name).getD 0)

/-- Whether values are bound to the type as text. -/
def isText : ScalarType → Bool
  | .text | .varchar | .bpchar => true
  | _ => false

end ScalarType

/-- A type of a column. -/
inductive ColumnType
  | scalar (type : ScalarType)
  | array (name : String) (element : ScalarType) (firstIndex : Nat)

namespace ColumnType

/-- The name of a type. -/
def name : ColumnType → String
  | .scalar type => type.name
  | .array name _ _ => name

/-- The scalar type that governs values that are no lists. -/
def asScalar : ColumnType → ScalarType
  | .scalar type => type
  | .array name _ _ => .other name 0

/-- The type of a name. -/
def ofName (name : String) : ColumnType :=
  if name = "int2vector" then .array name .int2 0
  else if name = "oidvector" then .array name (.ofName "oid") 0
  else
    match name.toList with
    | '_' :: element => .array name (.ofName (String.ofList element)) 1
    | _ => .scalar (.ofName name)

end ColumnType

end SqlCondition
