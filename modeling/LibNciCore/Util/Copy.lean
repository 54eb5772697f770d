import LibNciCore.Lib.Memory
import LibNciCore.Util.Bounds

/-!
# Copying parameters

Notifications and their parameters are copied together with everything they refer to, into one
block. The size of the block is computed before anything is copied. Here the structures are in a
memory, together with the bytes of the notification that they have been parsed from. How much room
they take there is not known, and neither is where a block is allocated.
-/

namespace Nci

open Memory Program

/-! ### Structures in memory -/

/-- RF_DISCOVER_NTF in memory. The parameters are somewhere else. -/
structure NciDiscoveryNtfObject where
  discoveryId : UInt8
  protocol : NciProtocol
  mode : NciMode
  paramLen : Nat
  paramBytes : Option Nat
  param : Option Nat
  last : Bool
  deriving DecidableEq, Repr

/-- The notification in memory, the parameters of which are at the given address. -/
def NciDiscoveryNtf.object (ntf : NciDiscoveryNtf) (param : Option Nat) :
    NciDiscoveryNtfObject where
  discoveryId := ntf.discoveryId
  protocol := ntf.protocol
  mode := ntf.mode
  paramLen := ntf.paramLen
  paramBytes := ntf.paramBytes
  param := param
  last := ntf.last

/-- What there is in memory. -/
inductive CValue where
  | byte (b : UInt8)
  | discoveryNtf (ntf : NciDiscoveryNtfObject)
  | modeParam (param : NciModeParam)
  | activationParam (param : NciActivationParam)
  deriving DecidableEq, Repr

abbrev CMemory : Type := Memory CValue

abbrev CProgram : Type → Type := Program CValue

def byteLayout : Layout CValue UInt8 where
  size := 1
  size_pos := Nat.one_pos
  toValue := .byte
  ofValue
    | .byte b => some b
    | _ => none
  ofValue_toValue _ := rfl

/-- The layout of a structure with views in it. What they refer to is somewhere else; `forget`
forgets where. -/
structure ViewLayout (α : Type) extends Layout CValue α where
  views : α → List GUtilData
  forget : α → α

/-- A view that is a field of a structure. -/
structure ViewField (α : Type) where
  view : α → GUtilData
  setBytes : Nat → α → α

/-- The sizes of structures. -/
structure CSizes where
  discoveryNtf : Nat
  modeParam : Nat
  activationParam : Nat
  discoveryNtf_pos : 0 < discoveryNtf
  modeParam_pos : 0 < modeParam
  activationParam_pos : 0 < activationParam

/-- The view, without where it starts. -/
def GUtilData.forget (v : GUtilData) : GUtilData := ⟨none, v.size⟩

def NciModeParam.forget : NciModeParam → NciModeParam
  | .pollB param => .pollB { param with protInfo := param.protInfo.forget }
  | .listenF param => .listenF { nfcid2 := param.nfcid2.forget }
  | param => param

def NciActivationParam.forget : NciActivationParam → NciActivationParam
  | .isoDepPollA param => .isoDepPollA { param with t1 := param.t1.forget }
  | .isoDepPollB param => .isoDepPollB { param with hlr := param.hlr.forget }
  | .isoDepListenA param => .isoDepListenA param
  | .isoDepListenB param => .isoDepListenB { param with hlc := param.hlc.forget }
  | .nfcDepPoll param => .nfcDepPoll { param with g := param.g.forget }
  | .nfcDepListen param => .nfcDepListen { param with g := param.g.forget }

namespace CSizes

variable (S : CSizes)

def discoveryNtfLayout : Layout CValue NciDiscoveryNtfObject where
  size := S.discoveryNtf
  size_pos := S.discoveryNtf_pos
  toValue := .discoveryNtf
  ofValue
    | .discoveryNtf ntf => some ntf
    | _ => none
  ofValue_toValue _ := rfl

def modeParamLayout : ViewLayout NciModeParam where
  size := S.modeParam
  size_pos := S.modeParam_pos
  toValue := .modeParam
  ofValue
    | .modeParam param => some param
    | _ => none
  ofValue_toValue _ := rfl
  views := NciModeParam.views
  forget := NciModeParam.forget

def activationParamLayout : ViewLayout NciActivationParam where
  size := S.activationParam
  size_pos := S.activationParam_pos
  toValue := .activationParam
  ofValue
    | .activationParam param => some param
    | _ => none
  ofValue_toValue _ := rfl
  views := NciActivationParam.views
  forget := NciActivationParam.forget

end CSizes

/-! ### The views -/

def protInfoField : ViewField NciModeParam where
  view
    | .pollB param => param.protInfo
    | _ => GUtilData.zero
  setBytes bytes
    | .pollB param => .pollB { param with protInfo := ⟨some bytes, param.protInfo.size⟩ }
    | param => param

def nfcid2Field : ViewField NciModeParam where
  view
    | .listenF param => param.nfcid2
    | _ => GUtilData.zero
  setBytes bytes
    | .listenF param => .listenF { nfcid2 := ⟨some bytes, param.nfcid2.size⟩ }
    | param => param

def t1Field : ViewField NciActivationParam where
  view
    | .isoDepPollA param => param.t1
    | _ => GUtilData.zero
  setBytes bytes
    | .isoDepPollA param => .isoDepPollA { param with t1 := ⟨some bytes, param.t1.size⟩ }
    | param => param

def hlrField : ViewField NciActivationParam where
  view
    | .isoDepPollB param => param.hlr
    | _ => GUtilData.zero
  setBytes bytes
    | .isoDepPollB param => .isoDepPollB { param with hlr := ⟨some bytes, param.hlr.size⟩ }
    | param => param

def hlcField : ViewField NciActivationParam where
  view
    | .isoDepListenB param => param.hlc
    | _ => GUtilData.zero
  setBytes bytes
    | .isoDepListenB param => .isoDepListenB { param with hlc := ⟨some bytes, param.hlc.size⟩ }
    | param => param

def nfcDepPollGField : ViewField NciActivationParam where
  view
    | .nfcDepPoll param => param.g
    | _ => GUtilData.zero
  setBytes bytes
    | .nfcDepPoll param => .nfcDepPoll { param with g := ⟨some bytes, param.g.size⟩ }
    | param => param

def nfcDepListenGField : ViewField NciActivationParam where
  view
    | .nfcDepListen param => param.g
    | _ => GUtilData.zero
  setBytes bytes
    | .nfcDepListen param => .nfcDepListen { param with g := ⟨some bytes, param.g.size⟩ }
    | param => param

/-! ### Blocks -/

/-- The next multiple of eight. -/
def gAlign8 (n : Nat) : Nat := (n + 7) / 8 * 8

/-- Allocates a block that is filled with zeros, at the address that `malloc` gives for its size. -/
def gMalloc0 (malloc : Nat → Nat) (size : Nat) : CProgram Nat := alloc malloc (.byte 0) size

/-- A copy of `size` bytes, in a block of its own. -/
def gutilMemdup (malloc : Nat → Nat) (src size : Nat) : CProgram Nat := do
  let copy ← gMalloc0 malloc size
  memcpy copy src size
  pure copy

/-- The bytes of a view are copied, and the structure at `copy` is made to refer to them. -/
def copyView {α : Type} (T : Layout CValue α) (field : ViewField α) (view : GUtilData)
    (copy dest : Nat) : CProgram Unit :=
  match view.bytes with
  | some bytes => do
      memcpy dest bytes view.size
      let a ← load T copy
      store T copy (field.setBytes dest a)
  | none => failure

/-- The size of a structure together with the bytes of a view that follow it, if there are any. -/
def sizeWithView (size : Nat) (view : GUtilData) : Nat :=
  if view.size ≠ 0 then gAlign8 size + gAlign8 view.size else size

section

variable (S : CSizes) (malloc : Nat → Nat)

/-! ### Parameters of a mode -/

/-- The size of the parameters together with what they refer to. -/
def CSizes.modeParamSize (param : NciModeParam) (mode : NciMode) : Nat :=
  match mode with
  | .activePollA | .passivePollA | .activePollF | .passivePollF | .passivePollV => S.modeParam
  | .passivePollB => sizeWithView S.modeParam (protInfoField.view param)
  | .activeListenF | .passiveListenF => sizeWithView S.modeParam (nfcid2Field.view param)
  | .passiveListenV | .passiveListenA | .passiveListenB | .activeListenA | .other _ => 0

def nciModeParamSize (param : Option Nat) (mode : NciMode) : CProgram Nat :=
  match param with
  | some i => do
      let param ← load S.modeParamLayout.toLayout i
      pure (S.modeParamSize param mode)
  | none => pure 0

/-- Copies the parameters, and behind them what one of their views refers to. -/
def nciModeParamCopyView (field : ViewField NciModeParam) (dest src : Nat) : CProgram Nat := do
  let param ← load S.modeParamLayout.toLayout src
  memcpy dest src S.modeParam
  if (field.view param).bytes.isSome then do
    copyView S.modeParamLayout.toLayout field (field.view param) dest (dest + gAlign8 S.modeParam)
    pure (gAlign8 S.modeParam + gAlign8 (field.view param).size)
  else pure S.modeParam

/-- Copies the parameters to a place where there is room for them, and tells how much room they have
taken. -/
def nciModeParamCopyImpl (dest src : Nat) (mode : NciMode) : CProgram Nat :=
  match mode with
  | .activePollA | .passivePollA | .activePollF | .passivePollF | .passivePollV => do
      memcpy dest src S.modeParam
      pure S.modeParam
  | .passivePollB => nciModeParamCopyView S protInfoField dest src
  | .activeListenF | .passiveListenF => nciModeParamCopyView S nfcid2Field dest src
  | .passiveListenV | .passiveListenA | .passiveListenB | .activeListenA | .other _ => pure 0

/-- Copies the parameters of a mode. -/
def nciUtilCopyModeParam (param : Option Nat) (mode : NciMode) : CProgram (Option Nat) :=
  match param with
  | some i => do
      let size ← nciModeParamSize S (some i) mode
      match mode with
      | .activePollA | .passivePollA | .activePollF | .passivePollF | .passivePollB
      | .activeListenF | .passiveListenF | .passivePollV =>
          if size ≠ 0 then do
            let copy ← gMalloc0 malloc size
            let _ ← nciModeParamCopyImpl S copy i mode
            pure (some copy)
          else pure none
      | .passiveListenV | .passiveListenA | .passiveListenB | .activeListenA | .other _ => pure none
  | none => pure none

/-! ### Parameters of an activation -/

/-- Copies the parameters, and behind them what one of their views refers to, if that is `wanted`.
The size of the block is given. -/
def nciActivationParamCopyView (field : ViewField NciActivationParam) (size : GUtilData → Nat)
    (wanted : GUtilData → Bool) (param : Nat) : CProgram (Option Nat) := do
  let view := field.view (← load S.activationParamLayout.toLayout param)
  let copy ← gMalloc0 malloc (size view)
  memcpy copy param S.activationParam
  if wanted view then do
    copyView S.activationParamLayout.toLayout field view copy (copy + gAlign8 S.activationParam)
    pure (some copy)
  else pure (some copy)

/-- Copies the parameters of an activation. The size of the block is computed in two ways, and
whether there is something to copy is decided in two ways. -/
def nciUtilCopyActivationParam (param : Option Nat) (intf : NciRfInterface) (mode : NciMode) :
    CProgram (Option Nat) :=
  match param with
  | some i =>
      match intf with
      | .isoDep =>
          match mode with
          | .passivePollA | .activePollA =>
              nciActivationParamCopyView S malloc t1Field (sizeWithView S.activationParam)
                (fun view => view.bytes.isSome) i
          | .passiveListenA | .activeListenA => do
              let copy ← gutilMemdup malloc i S.activationParam
              pure (some copy)
          | .passivePollB =>
              nciActivationParamCopyView S malloc hlrField (sizeWithView S.activationParam)
                (fun view => view.bytes.isSome) i
          | .passiveListenB =>
              nciActivationParamCopyView S malloc hlcField (sizeWithView S.activationParam)
                (fun view => view.size != 0) i
          | .passivePollF | .activePollF | .passivePollV | .passiveListenF | .activeListenF
          | .passiveListenV | .other _ => pure none
      | .frame => pure none
      | .nfcDep =>
          match mode with
          | .activePollA | .activePollF | .passivePollA | .passivePollF =>
              nciActivationParamCopyView S malloc nfcDepPollGField
                (fun view => S.activationParam + gAlign8 view.size)
                (fun view => view.bytes.isSome) i
          | .activeListenA | .activeListenF | .passiveListenA | .passiveListenF =>
              nciActivationParamCopyView S malloc nfcDepListenGField
                (fun view => S.activationParam + gAlign8 view.size)
                (fun view => view.bytes.isSome) i
          | .passivePollB | .passivePollV | .passiveListenB | .passiveListenV | .other _ =>
              pure none
      | .nfceeDirect | .proprietary | .other _ => pure none
  | none => pure none

/-! ### Notifications -/

/-- The size of what a notification refers to. -/
def discoveryNtfSize (src : Nat) : CProgram Nat := do
  let ntf ← load S.discoveryNtfLayout src
  if ntf.paramLen ≠ 0 then
    match ntf.param with
    | some param => do
        let size ← nciModeParamSize S (some param) ntf.mode
        pure (gAlign8 ntf.paramLen + gAlign8 size)
    | none => pure (gAlign8 ntf.paramLen)
  else pure 0

/-- The size of what the notifications refer to is added up. -/
def discoveryNtfSizes : List Nat → Nat → CProgram Nat
  | src :: ntfs, size => do
      let n ← discoveryNtfSize S src
      discoveryNtfSizes ntfs (size + n)
  | [], size => pure size

/-- Copies the parameters of a notification to `ptr`, and tells what comes behind them. -/
def discoveryNtfCopyParam (ntf : NciDiscoveryNtfObject) (dest ptr : Nat) : CProgram Nat :=
  match ntf.param with
  | some param => do
      let copied ← nciModeParamCopyImpl S ptr param ntf.mode
      let copy ← load S.discoveryNtfLayout dest
      if copied ≠ 0 then do
        store S.discoveryNtfLayout dest { copy with param := some ptr }
        pure (ptr + gAlign8 copied)
      else do
        store S.discoveryNtfLayout dest { copy with param := none }
        pure ptr
  | none => pure ptr

/-- Copies a notification to `dest` and what it refers to to `ptr`, and tells what comes behind
that. -/
def discoveryNtfCopy (src dest ptr : Nat) : CProgram Nat := do
  let ntf ← load S.discoveryNtfLayout src
  memcpy dest src S.discoveryNtf
  if ntf.paramLen ≠ 0 then do
    let copy ← load S.discoveryNtfLayout dest
    store S.discoveryNtfLayout dest { copy with paramBytes := some ptr }
    match ntf.paramBytes with
    | some bytes => do
        memcpy ptr bytes ntf.paramLen
        discoveryNtfCopyParam S ntf dest (ptr + gAlign8 ntf.paramLen)
    | none => failure
  else pure ptr

/-- Copies notifications one after another. -/
def discoveryNtfsCopy : List Nat → Nat → Nat → CProgram Unit
  | src :: ntfs, dest, ptr => do
      let ptr ← discoveryNtfCopy S src dest ptr
      discoveryNtfsCopy ntfs (dest + S.discoveryNtf) ptr
  | [], _, _ => pure ()

/-- Copies an array of notifications. -/
def nciDiscoveryNtfCopyArray (ntfs : List Nat) : CProgram (Option Nat) :=
  if ntfs ≠ [] then do
    let array := gAlign8 (S.discoveryNtf * ntfs.length)
    let size ← discoveryNtfSizes S ntfs array
    let copy ← gMalloc0 malloc size
    discoveryNtfsCopy S ntfs copy (copy + array)
    pure (some copy)
  else pure none

end

end Nci
