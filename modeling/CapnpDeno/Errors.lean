import Mathlib.Tactic

/-!
# Errors

A function of the runtime that can throw returns in `Except Thrown`.  The thrown value keeps the
class the runtime raises and the text of its message.
-/

namespace CapnpDeno

/-- The error classes the modelled code raises. -/
inductive ErrorClass
  | error
  | protocolError
  | rangeError
  | typeError
  | syntaxError
  | sessionError
  | transportError
  | wasmAbiError
  | codegenEmitError
deriving DecidableEq

/-- A thrown error. -/
structure Thrown where
  cls : ErrorClass
  message : String
deriving DecidableEq

/-- `new Error(message)`. -/
def plainError (message : String) : Thrown := ⟨.error, message⟩

/-- `new ProtocolError(message)`. -/
def protocolError (message : String) : Thrown := ⟨.protocolError, message⟩

/-- `new SessionError(message)`. -/
def sessionError (message : String) : Thrown := ⟨.sessionError, message⟩

/-- `new TransportError(message)`. -/
def transportError (message : String) : Thrown := ⟨.transportError, message⟩

/-- `new CodegenEmitError(message)`. -/
def codegenEmitError (message : String) : Thrown := ⟨.codegenEmitError, message⟩

/-- The `name` of an error of the class. -/
def ErrorClass.name : ErrorClass → String
  | error => "Error"
  | protocolError => "ProtocolError"
  | rangeError => "RangeError"
  | typeError => "TypeError"
  | syntaxError => "SyntaxError"
  | sessionError => "SessionError"
  | transportError => "TransportError"
  | wasmAbiError => "WasmAbiError"
  | codegenEmitError => "CodegenEmitError"

/-- It is a `CapnpError`. -/
def ErrorClass.isCapnpError : ErrorClass → Bool
  | protocolError | sessionError | transportError | wasmAbiError => true
  | error | rangeError | typeError | syntaxError | codegenEmitError => false

def formatUnknownError (error : Thrown) : String :=
  if error.message = "" then error.cls.name else error.message

/-- A `CapnpError` stays as it is. -/
def normalizeCapnpError (error : Thrown) (fallbackKind : ErrorClass) (context : String) : Thrown :=
  if error.cls.isCapnpError then error
    else ⟨fallbackKind, s!"{context}: {formatUnknownError error}"⟩

def normalizeTransportError (error : Thrown) (context : String) : Thrown :=
  normalizeCapnpError error .transportError context

def normalizeSessionError (error : Thrown) (context : String) : Thrown :=
  normalizeCapnpError error .sessionError context

/-- `String(error)`. -/
def Thrown.toText (thrown : Thrown) : String := thrown.cls.name ++ ": " ++ thrown.message

/-- What the engine raises when a recursion exhausts the call stack. -/
def stackOverflow : Thrown := ⟨.rangeError, "Maximum call stack size exceeded"⟩

/-- What the engine raises when a property of `null` is read. -/
def nullAccess : Thrown := ⟨.typeError, "Cannot read properties of null"⟩

/-- What the engine raises for a typed array longer than its buffers can be. -/
def invalidTypedArrayLength (length : ℕ) : Thrown :=
  ⟨.rangeError, s!"Invalid typed array length: {length}"⟩

/-- What the engine raises for an array longer than arrays can be. -/
def invalidArrayLength : Thrown := ⟨.rangeError, "Invalid array length"⟩

end CapnpDeno
