import LibNciCore.Sm.Object

/-!
# The parameters of the core

There is a table of the parameters: how each one is read, set, and set back to its default, and when
two of its values are equal. The parameters belong to the state machine, which is not told about a
change; what is to be done about it is decided afterwards, by comparing all of them with what they
were before.
-/

namespace Nci

/-! ### Keys and values -/

/-- The parameters, in the order of their numbers. -/
inductive NciCoreParamKey where
  | llcVersion
  | llcWks
  | laNfcid1
  | liAHb
  deriving DecidableEq, Repr

/-- All parameters, in ascending order. -/
def NciCoreParamKey.all : List NciCoreParamKey := [.llcVersion, .llcWks, .laNfcid1, .liAHb]

/-- What the values of a parameter are. -/
def NciCoreParamKey.Value : NciCoreParamKey → Type
  | .llcVersion => UInt8
  | .llcWks => UInt16
  | .laNfcid1 => NciNfcid1
  | .liAHb => NciAtsHb

/-- A key together with a value. The key may be the number of no parameter. -/
inductive NciCoreParam where
  | known (key : NciCoreParamKey) (value : key.Value)
  | other (key : UInt32)

/-- What there is to know of a parameter. -/
structure NciCoreParamDesc (α : Type) where
  get : NciSmObject → α
  set : α → NciSmObject → NciSmObject
  reset : NciSmObject → NciSmObject
  equal : α → α → Bool

/-! ### The table -/

abbrev nciDefaultLlcVersion : UInt8 := 0x11

abbrev nciDefaultLlcWks : UInt16 := 0x0003

def nciCoreParamSetLlcVersion (version : UInt8) (core : NciSmObject) : NciSmObject :=
  if core.sm.llcVersion ≠ version then { core with sm := { core.sm with llcVersion := version } }
  else core

/-- The least significant bit of the list of well-known services is always set. -/
def nciCoreParamSetLlcWks (value : UInt16) (core : NciSmObject) : NciSmObject :=
  let wks := value ||| 0x01
  if core.sm.llcWks ≠ wks then { core with sm := { core.sm with llcWks := wks } } else core

/-- The value is a copy, in an array that has been cleared before. -/
def nciCoreParamGetLaNfcid1 (core : NciSmObject) : NciNfcid1 :=
  let nfcid := core.sm.laNfcid1
  let len := min nfcid.len 10
  ⟨len, zeroPadded 10 (nfcid.bytes.take len.toNat)⟩

/-- The value is a copy, in an array that has been cleared before. -/
def nciCoreParamGetLiAHb (core : NciSmObject) : NciAtsHb :=
  let hb := core.sm.liAHb
  let len := min hb.len 15
  ⟨len, zeroPadded 15 (hb.bytes.take len.toNat)⟩

/-- No more than fifteen bytes are compared. -/
def nciCoreParamEqualHb (hb1 hb2 : NciAtsHb) : Bool :=
  hb1.len == hb2.len
    && hb1.bytes.take (min hb1.len.toNat 15) == hb2.bytes.take (min hb1.len.toNat 15)

/-- The table of the parameters. -/
def nciCoreParams : (key : NciCoreParamKey) → NciCoreParamDesc key.Value
  | .llcVersion =>
      { get := fun core => core.sm.llcVersion
        set := nciCoreParamSetLlcVersion
        reset := nciCoreParamSetLlcVersion nciDefaultLlcVersion
        equal := fun v1 v2 => UInt8.toNat v1 == UInt8.toNat v2 }
  | .llcWks =>
      { get := fun core => core.sm.llcWks
        set := nciCoreParamSetLlcWks
        reset := nciCoreParamSetLlcWks nciDefaultLlcWks
        equal := fun v1 v2 => UInt16.toNat v1 == UInt16.toNat v2 }
  | .laNfcid1 =>
      { get := nciCoreParamGetLaNfcid1
        set := fun value => nciSmSetLaNfcid1 (some value)
        reset := nciSmSetLaNfcid1 none
        equal := nciNfcid1Equal }
  | .liAHb =>
      { get := nciCoreParamGetLiAHb
        set := fun value => nciSmSetLiAHb (some value)
        reset := nciSmSetLiAHb none
        equal := nciCoreParamEqualHb }

/-! ### Setting several parameters -/

/-- A parameter is set. One that is not known is ignored. -/
def NciCoreParam.apply (core : NciSmObject) : NciCoreParam → NciSmObject
  | .known key value => (nciCoreParams key).set value core
  | .other _ => core

/-- All parameters are set back to their defaults. -/
def nciCoreParamsReset (core : NciSmObject) : NciSmObject :=
  NciCoreParamKey.all.foldl (fun core key => (nciCoreParams key).reset core) core

/-- The parameters are set back if that is asked for, and then those in the list are set. -/
def nciCoreParamsApply (params : List NciCoreParam) (reset : Bool) (core : NciSmObject) :
    NciSmObject :=
  params.foldl NciCoreParam.apply (if reset then nciCoreParamsReset core else core)

/-- A parameter has another value than before. -/
def nciCoreParamChanged (old core : NciSmObject) (key : NciCoreParamKey) : Bool :=
  !(nciCoreParams key).equal ((nciCoreParams key).get old) ((nciCoreParams key).get core)

/-- The parameters that have other values than before. -/
def nciCoreParamsChanged (old core : NciSmObject) : List NciCoreParamKey :=
  NciCoreParamKey.all.filter (nciCoreParamChanged old core)

end Nci
