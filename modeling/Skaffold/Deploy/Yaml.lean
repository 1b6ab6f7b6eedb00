import Skaffold.Basic

/-!
# YAML documents as the manifest transformer sees them

`manifestList.replaceImages` decodes each manifest with yaml.v2 into Go values: a mapping becomes
a `map[interface{}]interface{}`, a sequence a `[]interface{}`, and a scalar a string, an integer,
a boolean or `nil`. A mapping key is decoded like any other node, so `80:` and `on:` give keys that
are not strings. The model takes the decoded tree (`Value`), a mapping as its entries in the order
a `range` over it visits them.

The transformer reads a node through the type assertion `x.(string)`, which panics on any other
dynamic type (`Value.asString`, `asString_panics`), and decodes a whole document into a map,
which fails on a root that is neither a mapping nor empty (`unmarshalMap`). A tree passes every
assertion the transformer makes exactly when every mapping key in it is a string and every value
under an `image` key is a string (`Value.Assertable`).
-/

set_option autoImplicit false

namespace Skaffold.Deploy

/-- A YAML node as yaml.v2 decodes it into an `interface{}`. -/
inductive Value where
  | str (s : String)
  | int (n : Int)
  | bool (b : Bool)
  | null
  | seq (items : List Value)
  | map (entries : List (Value × Value))

namespace Value

/-- The dynamic Go type of a decoded node, as a failed type assertion names it. -/
def goType : Value → String
  | .str _ => "string"
  | .int _ => "int"
  | .bool _ => "bool"
  | .null => "nil"
  | .seq _ => "[]interface \x7b\x7d"
  | .map _ => "map[interface \x7b\x7d]interface \x7b\x7d"

/-- The YAML tag of a decoded node, as an unmarshal error names it. -/
def yamlTag : Value → String
  | .str _ => "!!str"
  | .int _ => "!!int"
  | .bool _ => "!!bool"
  | .null => "!!null"
  | .seq _ => "!!seq"
  | .map _ => "!!map"

/-- The type assertion `x.(string)`: the string, or the run-time panic of a failed assertion. -/
def asString : Value → Except Failure String
  | .str s => .ok s
  | other => .error (.panic ("interface conversion: interface \x7b\x7d is " ++ other.goType ++
      ", not string"))

@[simp] theorem asString_str (s : String) : (Value.str s).asString = .ok s := rfl

theorem eq_of_asString {v : Value} {s : String} (asserted : v.asString = .ok s) : v = .str s := by
  cases v <;> first | (cases asserted; rfl) | cases asserted

theorem asString_panics {v : Value} (notString : ∀ s, v ≠ .str s) :
    ∃ reason, v.asString = .error (.panic reason) := by
  cases v with
  | str s => exact absurd rfl (notString s)
  | _ => exact ⟨_, rfl⟩

/-- Whether a node is a string. -/
def isString : Value → Bool
  | .str _ => true
  | _ => false

/-- Whether a mapping key is the string `image`. -/
def isImageKey : Value → Bool
  | .str key => key == "image"
  | _ => false

mutual

/-- Every mapping key of the tree is a string, and every value under an `image` key is a string:
the type assertions of `recursiveReplaceImage` hold. -/
def assertable : Value → Bool
  | .seq items => assertableItems items
  | .map entries => assertableEntries entries
  | _ => true

/-- `assertable` on every item of a sequence. -/
def assertableItems : List Value → Bool
  | [] => true
  | v :: rest => assertable v && assertableItems rest

/-- `assertable` on the entries of a mapping. -/
def assertableEntries : List (Value × Value) → Bool
  | [] => true
  | (k, v) :: rest =>
      k.isString && (if k.isImageKey then v.isString else assertable v) && assertableEntries rest

end

end Value

/-- `yaml.Unmarshal` of a document into a `map[interface{}]interface{}`: the mapping's entries;
an empty document leaves the map empty, and any other root is an unmarshal error. yaml.v2 names
the root's line in the error, and quotes the text of a scalar root; the decoded tree carries
neither, so the model's text leaves them out, and no result of the model rests on the text. -/
def unmarshalMap : Value → Except String (List (Value × Value))
  | .map entries => .ok entries
  | .null => .ok []
  | other => .error ("yaml: unmarshal errors: cannot unmarshal " ++ other.yamlTag ++
      " into map[interface \x7b\x7d]interface \x7b\x7d")

end Skaffold.Deploy
