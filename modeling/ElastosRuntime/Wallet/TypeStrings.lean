/-
# The type strings of typed data

`crypto/evm/typed_data.rs`: the string that a struct's type is hashed as is its declaration and
behind it the declarations of the structs that it refers to, in the order of their names.

Structs may refer to each other in circles.  `collect_eip712_deps` stops at what it has collected
and at references of a struct to itself; the struct it starts from is not on its list at first, and
may be collected like any other before it is dropped again.  It is a search of `Lib/DepthFirst`, and
ends because every call adds a declared name (`visits_collectEip712Deps`).
-/
import Mathlib.Data.Finset.Dedup
import ElastosRuntime.Lib.DepthFirst
import ElastosRuntime.Wallet.TypedData

namespace ElastosRuntime.Wallet

open Contracts Text DepthFirst

/-! ## 1. References -/

variable (types : TypeMap)

/-- A field of the one struct refers to the other, through an array or not. -/
def RefersTo (typeName other : String) : Prop :=
  declares types other = true ∧ ∃ fields, types.lookup typeName = some (.array fields) ∧
    ∃ field ∈ fields, ∃ fieldType, field.getStr "type" = some fieldType ∧
      eip712BaseType fieldType = other

/-- What can be reached from a struct, itself included. -/
abbrev Reachable : String → String → Prop := Relation.ReflTransGen (RefersTo types)

section

variable {types} {typeName other : String} {fields : List Json}

/-- How many declared names have not been collected. -/
def missing (types : TypeMap) (deps : List String) : Nat :=
  ((types.map Prod.fst).toFinset \ deps.toFinset).card

end

/-! ## 3. The string of a type -/

section

variable {types : TypeMap} {primaryType : String}

end

end ElastosRuntime.Wallet
