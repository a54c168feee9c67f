import ScriptSandbox.Datum
import ScriptSandbox.Key
import ScriptSandbox.Routine
import ScriptSandbox.Text.Quoted

/-! # Failures

The ways in which an operation of the engine can fail. Rejected writes are a family of their own:
code that is not strict passes over them.
-/

namespace ScriptSandbox

/-- What is wrong with the use of a value. Values appear by their text. -/
inductive TypeFault where
  | emptyTypeName
  | invalidTypeName (name : String)
  | cyclicPrototype
  | fixedPrototype (object : Ref)
  | notConvertible (text : String)
  | notReadable (key : Key) (text : String)
  | notAssignable (key : Key) (text : String)
  | notDeletable (key : Key) (text : String)
  | notFunction (text : String)
  | notConstructor (text : String)
  | noHostConstructor (name : String)
  | instanceOfNonFunction
  | instanceOfNoPrototype
  | notHostType (text : String)
  | noTypeName (text : String)
  | noPackage (text : String)
  | noDescriptor (text : String)
  | noPrototype (text : String)
  | definedOnNonObject
  | prototypeOfNullish
  | noErrorObject
  | noString
  | noNumber
  | noBoolean
  | stated (message : String)
deriving DecidableEq

def TypeFault.message : TypeFault → String
  | emptyTypeName => "empty host type name"
  | invalidTypeName name => "invalid host type name: " ++ Text.quote name
  | cyclicPrototype => "Cyclic __proto__ value"
  | fixedPrototype r => "#<Object> is not extensible (object #" ++ r.id.repr ++ ")"
  | notConvertible text => "Cannot convert " ++ text ++ " to object"
  | notReadable key text => "Cannot read property \"" ++ key.text ++ "\" from " ++ text
  | notAssignable key text => "Cannot set property \"" ++ key.text ++ "\" of " ++ text
  | notDeletable key text => "Cannot delete property \"" ++ key.text ++ "\" of " ++ text
  | notFunction text => text ++ " is not a function"
  | notConstructor text => text ++ " is not a constructor"
  | noHostConstructor name => name ++ " has no public constructor"
  | instanceOfNonFunction => "Right-hand side of 'instanceof' is not callable"
  | instanceOfNoPrototype => "Function has non-object prototype in instanceof check"
  | notHostType text => text ++ " is not a host type"
  | noTypeName text => "Java.type expects a type name string, got " ++ text
  | noPackage text => "importPackage expects a package, got " ++ text
  | noDescriptor text => "Property description must be an object: " ++ text
  | noPrototype text => "Object prototype may only be an Object or null: " ++ text
  | definedOnNonObject => "Object.defineProperty called on non-object"
  | prototypeOfNullish => "Object.setPrototypeOf called on null or undefined"
  | noErrorObject => "Error.prototype.toString called on non-object"
  | noString => "String.prototype.valueOf requires a string"
  | noNumber => "Number.prototype.valueOf requires a number"
  | noBoolean => "Boolean.prototype.valueOf requires a boolean"
  | stated message => message

inductive Failure where
  | type (fault : TypeFault)
  | reference (name : String)
  | range (message : String)
  | notExtensible (key : Key)
  | notConfigurable (key : Key)
  | frozenWrite (key : Key)
  | accessDenied (name : String)
  | notFound (name : String)
  | config (message : String)
  | internal (message : String)
  | thrown (v : Value)
deriving DecidableEq

namespace Failure

def invalidLength : Failure := .range "Invalid array length"

/-- Whether code that is not strict passes over the failure. -/
def isWriteRejection : Failure → Bool
  | notExtensible _ | notConfigurable _ | frozenWrite _ => true
  | _ => false

def isAccessDenied : Failure → Bool
  | accessDenied _ => true
  | _ => false

def isNotFound : Failure → Bool
  | notFound _ => true
  | _ => false

def isTypeFault : Failure → Bool
  | type _ => true
  | _ => false

/-- The host type that the failure is about. -/
def typeName? : Failure → Option String
  | accessDenied name | notFound name => some name
  | _ => none

/-- The kind of error object that stands for the failure, where a thrown value does not. -/
def kind : Failure → ErrorKind
  | type _ | notExtensible _ | notConfigurable _ | frozenWrite _ => .typeError
  | range _ => .rangeError
  | reference _ => .referenceError
  | accessDenied _ => .securityError
  | notFound _ => .classNotFoundError
  | config _ | internal _ | thrown _ => .error

/-- The message, where a thrown value is given by its text. -/
def message (text : Value → String) : Failure → String
  | type fault => fault.message
  | reference name => name ++ " is not defined"
  | range m => m
  | notExtensible key => "Cannot add property " ++ key.text ++ ", object is not extensible"
  | notConfigurable key => "Cannot redefine property: " ++ key.text
  | frozenWrite key => "Cannot assign to read only property '" ++ key.text ++ "'"
  | accessDenied name => "access to host type " ++ name ++ " is denied"
  | notFound name => name
  | config m => m
  | internal m => m
  | thrown v => text v

/-- What a report of the failure begins with. -/
def label : Failure → String
  | config _ => "ConfigError: "
  | internal _ => "Internal error: "
  | thrown _ => "Uncaught "
  | f => f.kind.name ++ ": "

/-- The failure as it is reported. -/
def report (text : Value → String) (f : Failure) : String := f.label ++ f.message text

end Failure

end ScriptSandbox
