/-! # Native routines

Functions carry no code but the name of what they do: a builtin of the engine, or a callback that
the embedding offers to host classes.
-/

namespace ScriptSandbox

/-- The kinds of error objects. -/
inductive ErrorKind where
  | error
  | typeError
  | rangeError
  | referenceError
  | securityError
  | classNotFoundError
deriving DecidableEq

namespace ErrorKind

def all : List ErrorKind :=
  [.error, .typeError, .rangeError, .referenceError, .securityError, .classNotFoundError]

def name : ErrorKind → String
  | error => "Error"
  | typeError => "TypeError"
  | rangeError => "RangeError"
  | referenceError => "ReferenceError"
  | securityError => "SecurityError"
  | classNotFoundError => "ClassNotFoundError"

end ErrorKind

inductive Builtin where
  -- the `Object` constructor and its methods
  | object
  | keys
  | getOwnPropertyNames
  | getOwnPropertyDescriptor
  | defineProperty
  | create
  | getPrototypeOf
  | setPrototypeOf
  | freeze
  | isFrozen
  | seal
  | isSealed
  | preventExtensions
  | isExtensible
  -- methods that all objects inherit
  | hasOwnProperty
  | toString
  | valueOf
  -- arrays
  | array
  | isArray
  | push
  -- boxes of primitives
  | string
  | stringValue
  | number
  | numberValue
  | boolean
  | booleanValue
  -- errors
  | error (kind : ErrorKind)
  | errorText
  -- host types
  | hostType
  | isHostType
  | hostTypeName
  | importPackage
  | importClass
deriving DecidableEq

/-- What a host class may run with the arguments of a call. Each of them asks the realm for
operations and answers by what comes of them, and so may others that are not listed. -/
inductive Callback where
  /-- Answers undefined. -/
  | noop
  | null
  /-- Answers the receiver. -/
  | receiver
  /-- Answers the first argument. -/
  | first
  /-- Answers an arguments object. -/
  | arguments
  /-- Answers the number of arguments. -/
  | count
  /-- Gives the receiver a size of zero. -/
  | initSize
  /-- Keeps the arguments on the receiver as an array. -/
  | storeArguments
  | newObject
  /-- Resolves the host type that the first argument names. -/
  | classForName
  /-- Throws the first argument. -/
  | throwFirst
  | throwInternal
  /-- Calls the first argument with the receiver and the other arguments. -/
  | callFirst
  /-- Looks up the free identifier that the first argument names. -/
  | getGlobal
deriving DecidableEq

inductive Routine where
  | builtin (b : Builtin)
  | callback (c : Callback)
deriving DecidableEq

end ScriptSandbox
