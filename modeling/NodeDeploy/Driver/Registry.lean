import NodeDeploy.Driver.Basic

/-! # Registry of drivers

The registry holds one driver per provider, listed by provider.

* `Registry.resolve` finds the driver of a provider, or says which providers there are.
-/

namespace NodeDeploy

abbrev Registry := Dict String Driver

namespace Registry

/-- Registers a driver for a provider, instead of an earlier one. -/
def register (r : Registry) (provider : String) (d : Driver) : Registry := Dict.insert r provider d

def withBuiltins (r : Registry) : Registry :=
  (((r.register Driver.srLinux.provider .srLinux).register Driver.srOs.provider .srOs).register
    Driver.plainServer.provider .plainServer)

def builtin : Registry := withBuiltins {}

def providers (r : Registry) : List String := Dict.keys r

def providerList (r : Registry) : String := String.intercalate ", " r.providers

def resolve (r : Registry) (provider : String) : Except Failure Driver :=
  match Dict.find? r provider with
  | some d => .ok d
  | none => .error (.notSupported provider r.providerList)

def describe (r : Registry) : String :=
  "DriverRegistry \x7b providers: " ++ quotedList r.providers ++ " \x7d"

end Registry

end NodeDeploy
