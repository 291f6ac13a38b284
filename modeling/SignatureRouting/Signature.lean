import SignatureRouting.Value

/-!
Signature settings. Formats, levels and types are authored as numbers. A PAdES container holds
enveloped signatures only and a CAdES container never does; any other format, known or not, takes
every type.
-/
namespace SignatureRouting

inductive SignatureFormat where
  | pades
  | xades
  | cades
  deriving DecidableEq, Repr

inductive SignatureLevel where
  | b
  | t
  | lt
  | lta
  deriving DecidableEq, Repr

inductive SignatureType where
  | enveloped
  | enveloping
  | detached
  deriving DecidableEq, Repr

namespace SignatureFormat

def all : List SignatureFormat := [pades, xades, cades]

def number : SignatureFormat → Int
  | pades => 1
  | xades => 2
  | cades => 3

def name : SignatureFormat → String
  | pades => "PADES"
  | xades => "XADES"
  | cades => "CADES"

def ofName? (name : String) : Option SignatureFormat := all.find? (·.name == name)

end SignatureFormat

namespace SignatureLevel

def all : List SignatureLevel := [b, t, lt, lta]

def number : SignatureLevel → Int
  | b => 1
  | t => 2
  | lt => 3
  | lta => 4

end SignatureLevel

namespace SignatureType

def all : List SignatureType := [enveloped, enveloping, detached]

def number : SignatureType → Int
  | enveloped => 1
  | enveloping => 2
  | detached => 3

def name : SignatureType → String
  | enveloped => "ENVELOPED"
  | enveloping => "ENVELOPING"
  | detached => "DETACHED"

def ofName? (name : String) : Option SignatureType := all.find? (·.name == name)

def ofValue? (v : Value) : Option SignatureType := all.find? fun t => v == .int t.number

/-- The format is compared as it is given; only the numbers of PAdES and CAdES restrict. -/
def isCompatible (type : SignatureType) (format : Value) : Bool :=
  if format == .int SignatureFormat.pades.number then type == enveloped
  else if format == .int SignatureFormat.cades.number then type != enveloped
  else true

end SignatureType

/-- A setting of a scenario is read strictly: true is not the number one there. -/
def strictly (v : Value) : Option Value :=
  match v with
  | .bool _ => none
  | _ => some v

def SignatureFormat.ofSetting? (v : Value) : Option SignatureFormat :=
  (strictly v).bind fun v => SignatureFormat.all.find? fun f => v == .int f.number

def SignatureLevel.ofSetting? (v : Value) : Option SignatureLevel :=
  (strictly v).bind fun v => SignatureLevel.all.find? fun l => v == .int l.number

def SignatureType.ofSetting? (v : Value) : Option SignatureType :=
  (strictly v).bind SignatureType.ofValue?

end SignatureRouting
