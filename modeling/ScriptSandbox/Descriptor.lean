import ScriptSandbox.Datum

/-! # Properties and their descriptions

A property is a value with three attributes. A descriptor names some of the four parts: defining a
new property fills the others with undefined and off, redefining one leaves them as they are.
-/

namespace ScriptSandbox

structure Property where
  value : Value
  writable : Bool
  enumerable : Bool
  configurable : Bool
deriving DecidableEq

namespace Property

/-- What an assignment creates. -/
def assigned (v : Value) : Property := ⟨v, true, true, true⟩

/-- What holds a method. -/
def hidden (v : Value) : Property := ⟨v, true, false, true⟩

end Property

structure Descriptor where
  value : Option Value := none
  writable : Option Bool := none
  enumerable : Option Bool := none
  configurable : Option Bool := none
deriving DecidableEq

namespace Descriptor

def toProperty (d : Descriptor) : Property where
  value := d.value.getD .undefined
  writable := d.writable.getD false
  enumerable := d.enumerable.getD false
  configurable := d.configurable.getD false

/-- The descriptor that names every part. -/
def ofProperty (p : Property) : Descriptor where
  value := some p.value
  writable := some p.writable
  enumerable := some p.enumerable
  configurable := some p.configurable

def applyTo (d : Descriptor) (p : Property) : Property where
  value := d.value.getD p.value
  writable := d.writable.getD p.writable
  enumerable := d.enumerable.getD p.enumerable
  configurable := d.configurable.getD p.configurable

/-- Whether a property may be redefined so. A property that is not configurable stays so and keeps
its enumerability; one that is not writable either stays so and keeps its value. -/
def suits (d : Descriptor) (p : Property) : Bool :=
  p.configurable ∨
    d.configurable ≠ some true ∧
    d.enumerable.getD p.enumerable = p.enumerable ∧
    (p.writable ∨ d.writable ≠ some true ∧ d.value.getD p.value = p.value)

end Descriptor

end ScriptSandbox
