import GlyphEffects.Effect.Builtin

/-! # Recipes

A recipe makes an effect out of data: a list of edits, each of which sets, adds to or multiplies
one number of the appearance. The number to do it with is a constant or is taken from the arguments
or from the position.

* `Recipe.Field` names the numbers of an appearance; `Field.get` and `Field.set` read and write
  one.
* `Recipe.effect` is the effect of a list of edits.
-/

namespace GlyphEffects.Effect.Recipe

open GlyphEffects.Markup GlyphEffects.Number

/-- One number of an appearance. -/
inductive Field
  | red
  | green
  | blue
  | alpha
  | offsetX
  | offsetY
  | scaleX
  | scaleY
  | skewX
  | skewY
  | rotation
deriving DecidableEq, Repr

def Field.get (a : Appearance) : Field → Float32
  | red => a.color.red
  | green => a.color.green
  | blue => a.color.blue
  | alpha => a.color.alpha
  | offsetX => a.offset.x
  | offsetY => a.offset.y
  | scaleX => a.scale.x
  | scaleY => a.scale.y
  | skewX => a.skew.x
  | skewY => a.skew.y
  | rotation => a.rotation

def Field.set (a : Appearance) (x : Float32) : Field → Appearance
  | red => { a with color := { a.color with red := x } }
  | green => { a with color := { a.color with green := x } }
  | blue => { a with color := { a.color with blue := x } }
  | alpha => { a with color := { a.color with alpha := x } }
  | offsetX => { a with offset := { a.offset with x } }
  | offsetY => { a with offset := { a.offset with y := x } }
  | scaleX => { a with scale := { a.scale with x } }
  | scaleY => { a with scale := { a.scale with y := x } }
  | skewX => { a with skew := { a.skew with x } }
  | skewY => { a with skew := { a.skew with y := x } }
  | rotation => { a with rotation := x }

/-- Where the number of an edit comes from. -/
inductive Operand
  | constant (x : Float32)
  | argument (key : String) (default : Float)
  | mainArgument (default : Float)
  | index
  | length
  | bytes
  | argumentCount

def Operand.value (args : Arguments) (p : Position) : Operand → Float32
  | constant x => x
  | argument key default => Effect.argument args key default
  | mainArgument default => Effect.mainArgument args default
  | index => ofCount p.index
  | length => ofCount p.length
  | bytes => ofCount p.cluster.utf8ByteSize
  | argumentCount => ofCount args.size

/-- What an edit does with its number. -/
inductive Operation
  | set
  | add
  | multiply
deriving DecidableEq, Repr

/-- The number that an operation leaves in a field. -/
def Operation.combine (old x : Float32) : Operation → Float32
  | set => x
  | add => old + x
  | multiply => old * x

/-- A change of one field. -/
structure Edit where
  operation : Operation
  field : Field
  operand : Operand

def Edit.apply (args : Arguments) (p : Position) (a : Appearance) (e : Edit) : Appearance :=
  e.field.set a (e.operation.combine (e.field.get a) (e.operand.value args p))

/-- The effect that makes the changes in their order. -/
def effect (name : String) (edits : List Edit) : Effect where
  name
  transform args p a := edits.foldl (Edit.apply args p) a

end GlyphEffects.Effect.Recipe
