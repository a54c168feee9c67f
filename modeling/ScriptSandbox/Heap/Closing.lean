import ScriptSandbox.Heap.Basic

/-! # Closing objects

An object is closed in levels: no new properties, then no property configurable, then none writable.
Levels only rise. The observed level is read off the attributes, so an object whose properties were
closed one by one counts as well.
-/

namespace ScriptSandbox

/-- A property under a level. -/
def Property.close (p : Property) (l : Level) : Property :=
  { p with
    configurable := p.configurable && !decide (.sealed ≤ l)
    writable := p.writable && !decide (.frozen ≤ l) }

namespace Cell

/-- Raises the level, and closes the properties with it. -/
def raise (c : Cell) (l : Level) : Cell :=
  if l ≤ c.level then c
  else { c with level := l, properties := c.properties.mapValues (·.close l) }

/-- The level that the attributes amount to. -/
def observedLevel (c : Cell) : Level :=
  if c.isExtensible then .extensible
  else if c.level = .frozen then .frozen
  else if c.properties.values.any Property.configurable then .nonExtensible
  else if c.properties.values.any Property.writable then .sealed
  else .frozen

/-- Whether the observed level reaches a level. -/
def hasLevel (c : Cell) (l : Level) : Bool := l ≤ c.observedLevel

def isSealed (c : Cell) : Bool := c.hasLevel .sealed

def isFrozen (c : Cell) : Bool := c.hasLevel .frozen

end Cell

end ScriptSandbox
