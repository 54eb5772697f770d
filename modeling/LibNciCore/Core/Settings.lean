import LibNciCore.Core.Params

/-!
# Settings

What the table of the parameters is for: the parameters have values, setting one of them gives it
another value, and setting all of them back gives them their defaults. How a value is stored does
not matter, as long as it is the same value. What is stored after a list of parameters has been set
are the values that are obtained from the values before, one parameter after another.
-/

namespace Nci

/-! ### Values -/

/-- The values of all parameters. -/
abbrev NciSettings : Type := (key : NciCoreParamKey) → key.Value

/-- The historical bytes. There is room for fifteen of them. -/
def NciAtsHb.value (hb : NciAtsHb) : List UInt8 := hb.bytes.take (min hb.len.toNat 15)

/-- Two values of a parameter are the same. -/
def NciCoreParamKey.Same : (key : NciCoreParamKey) → key.Value → key.Value → Prop
  | .llcVersion => Eq
  | .llcWks => Eq
  | .laNfcid1 => SameNfcid1
  | .liAHb => fun hb hb' => hb.len = hb'.len ∧ hb.value = hb'.value

/-- All parameters have the same values. -/
def NciSettings.Same (s s' : NciSettings) : Prop :=
  ∀ key : NciCoreParamKey, key.Same (s key) (s' key)

/-- An identifier that has not one of the possible lengths is not accepted. -/
def acceptedLaNfcid1 (id old : NciNfcid1) : NciNfcid1 :=
  if id.len = 0 ∨ id.len = 4 ∨ id.len = 7 ∨ id.len = 10 then id else old

/-- What becomes of a parameter that is set, the value of which was `old`. The least significant bit
of the list of well-known services is always set, and there are no more than fifteen historical
bytes. -/
def NciCoreParamKey.accepted : (key : NciCoreParamKey) → key.Value → key.Value → key.Value
  | .llcVersion, version, _ => version
  | .llcWks, wks, _ => UInt16.lor wks 1
  | .laNfcid1, id, old => acceptedLaNfcid1 id old
  | .liAHb, hb, _ => ⟨min hb.len 15, hb.bytes⟩

/-- The values after a parameter has been set. One that is not known is ignored. -/
def NciSettings.apply (s : NciSettings) : NciCoreParam → NciSettings
  | .known key value => Function.update s key (key.accepted value (s key))
  | .other _ => s

/-- A value that fits into its array. -/
def NciCoreParamKey.fitting : (key : NciCoreParamKey) → key.Value → key.Value
  | .llcVersion, version => version
  | .llcWks, wks => wks
  | .laNfcid1, id => ⟨min id.len 10, id.bytes⟩
  | .liAHb, hb => ⟨min hb.len 15, hb.bytes⟩

/-- The values, as they are read. -/
def NciSmObject.settings (obj : NciSmObject) : NciSettings := fun key => (nciCoreParams key).get obj

/-- The default values. -/
def NciSmObject.defaults (obj : NciSmObject) : NciSettings
  | .llcVersion => nciDefaultLlcVersion
  | .llcWks => nciDefaultLlcWks
  | .laNfcid1 => NciCoreParamKey.laNfcid1.fitting obj.defaultLaNfcid1
  | .liAHb => NciCoreParamKey.liAHb.fitting obj.defaultLiAHb

/-- The parameters are set back if that is asked for, and then those in the list are set. -/
def NciSmObject.wanted (obj : NciSmObject) (params : List NciCoreParam) (reset : Bool) :
    NciSettings :=
  params.foldl NciSettings.apply (if reset then obj.defaults else obj.settings)

/-! ### Sameness -/

theorem beq_toNat_uint8 (v v' : UInt8) :
  (v.toNat == v'.toNat) = true ↔ v = v'
  := by rw [beq_iff_eq, UInt8.toNat_inj]

theorem beq_toNat_uint16 (v v' : UInt16) :
  (v.toNat == v'.toNat) = true ↔ v = v'
  := by rw [beq_iff_eq, UInt16.toNat_inj]

theorem nciCoreParamEqualHb_iff (hb hb' : NciAtsHb) :
  nciCoreParamEqualHb hb hb' = true ↔ hb.len = hb'.len ∧ hb.value = hb'.value
  := by
  rw [nciCoreParamEqualHb, Bool.and_eq_true, beq_iff_eq, beq_iff_eq]
  apply and_congr_right
  intro hlen
  rw [NciAtsHb.value, NciAtsHb.value, hlen]

/-- The comparison in the table tells whether two values are the same. -/
theorem equal_iff_same (key : NciCoreParamKey) (v v' : key.Value) :
  (nciCoreParams key).equal v v' = true ↔ key.Same v v'
  := by
  cases key with
  | llcVersion => exact beq_toNat_uint8 v v'
  | llcWks => exact beq_toNat_uint16 v v'
  | laNfcid1 => exact nciNfcid1Equal_iff_same v v'
  | liAHb => exact nciCoreParamEqualHb_iff v v'

/-- Being the same is an equivalence. -/
theorem equivalence_same (key : NciCoreParamKey) :
  Equivalence key.Same
  := by
  cases key with
  | llcVersion => exact eq_equivalence
  | llcWks => exact eq_equivalence
  | laNfcid1 => exact ⟨SameNfcid1.refl, SameNfcid1.symm, SameNfcid1.trans⟩
  | liAHb =>
      constructor
      · intro _
        exact ⟨rfl, rfl⟩
      · rintro _ _ ⟨hlen, hvalue⟩
        exact ⟨hlen.symm, hvalue.symm⟩
      · rintro _ _ _ ⟨hlen, hvalue⟩ ⟨hlen', hvalue'⟩
        exact ⟨hlen.trans hlen', hvalue.trans hvalue'⟩

theorem NciCoreParamKey.Same.symm {key : NciCoreParamKey} {v v' : key.Value} (h : key.Same v v') :
  key.Same v' v
  := (equivalence_same key).symm h

theorem NciCoreParamKey.Same.trans {key : NciCoreParamKey} {v v' v'' : key.Value}
    (h : key.Same v v') (h' : key.Same v' v'') :
  key.Same v v''
  := (equivalence_same key).trans h h'

theorem NciSettings.same_refl (s : NciSettings) :
  s.Same s
  := fun key => (equivalence_same key).refl _

theorem SameNfcid1.accepted {old old' : NciNfcid1} (h : SameNfcid1 old old') (id : NciNfcid1) :
  SameNfcid1 (acceptedLaNfcid1 id old) (acceptedLaNfcid1 id old')
  := by
  rw [acceptedLaNfcid1, acceptedLaNfcid1]
  split
  · exact SameNfcid1.refl _
  · exact h

theorem NciCoreParamKey.Same.accepted {key : NciCoreParamKey} {old old' : key.Value}
    (h : key.Same old old') (value : key.Value) :
  key.Same (key.accepted value old) (key.accepted value old')
  := by
  cases key with
  | llcVersion => exact Eq.refl value
  | llcWks => exact Eq.refl (UInt16.lor value 1)
  | laNfcid1 => exact SameNfcid1.accepted h value
  | liAHb => exact ⟨rfl, rfl⟩

/-! ### Arrays -/

/-- The arrays of a value have the lengths that their type says. -/
def NciCoreParamKey.Sized : (key : NciCoreParamKey) → key.Value → Prop
  | .llcVersion, _ => True
  | .llcWks, _ => True
  | .laNfcid1, id => id.bytes.length = 10
  | .liAHb, hb => hb.bytes.length = 15

def NciCoreParam.Sized : NciCoreParam → Prop
  | .known key value => key.Sized value
  | .other _ => True

/-- The values, as they are stored. -/
def NciSm.stored (self : NciSm) : NciSettings
  | .llcVersion => self.llcVersion
  | .llcWks => self.llcWks
  | .laNfcid1 => self.laNfcid1
  | .liAHb => self.liAHb

/-- Other values are stored. -/
def NciSmObject.store (obj : NciSmObject) (s : NciSettings) : NciSmObject :=
  { obj with sm := { obj.sm with
      llcVersion := s .llcVersion, llcWks := s .llcWks, laNfcid1 := s .laNfcid1
      liAHb := s .liAHb } }

/-- The arrays have the lengths that their types say. -/
structure NciSmObject.Sized (obj : NciSmObject) : Prop where
  stored : ∀ key : NciCoreParamKey, key.Sized (obj.sm.stored key)
  defaults : ∀ key : NciCoreParamKey, key.Sized (obj.defaults key)

@[simp]
theorem NciSmObject.stored_store (obj : NciSmObject) (s : NciSettings) :
  (obj.store s).sm.stored = s
  := by
  funext key
  cases key <;> rfl

@[simp]
theorem NciSmObject.defaults_store (obj : NciSmObject) (s : NciSettings) :
  (obj.store s).defaults = obj.defaults
  := by
  funext key
  cases key <;> rfl

/-- What is copied into a cleared array is at its beginning. -/
theorem take_zeroPadded_take {n m : Nat} {bytes : List UInt8} (h : bytes.length = n) (hle : m ≤ n) :
  (zeroPadded n (bytes.take m)).take m = bytes.take m
  := by
  have hlen : (bytes.take m).length = m := by
    rw [List.length_take_of_le]
    rw [h]
    exact hle
  have htake := take_zeroPadded n (bytes.take m)
  rw [hlen] at htake
  exact htake

theorem length_zeroPadded_take (n m : Nat) (bytes : List UInt8) (h : bytes.length = n) :
  (zeroPadded n (bytes.take m)).length = n
  := by
  apply length_zeroPadded
  rw [← h]
  exact List.length_take_le' _ _

theorem toNat_min_uint8 (a b : UInt8) :
  (min a b).toNat = min a.toNat b.toNat
  := by
  rw [UInt8.min_def, Nat.min_def]
  split
  · rename_i h
    rw [if_pos (UInt8.le_iff_toNat_le.mp h)]
  · rename_i h
    rw [if_neg fun hle => h (UInt8.le_iff_toNat_le.mpr hle)]

/-! ### Reading -/

theorem same_getLaNfcid1 {obj : NciSmObject} (h : obj.sm.laNfcid1.bytes.length = 10) :
  SameNfcid1 (nciCoreParamGetLaNfcid1 obj) ⟨min obj.sm.laNfcid1.len 10, obj.sm.laNfcid1.bytes⟩
  := by
  have hten : (min obj.sm.laNfcid1.len 10).toNat ≤ 10 := by
    rw [toNat_min_uint8]
    exact Nat.min_le_right _ _
  apply SameNfcid1.value (by rfl)
  rw [NciNfcid1.value, NciNfcid1.value]
  dsimp only [nciCoreParamGetLaNfcid1]
  rw [Nat.min_eq_left hten, take_zeroPadded_take h hten]

theorem value_getLiAHb {obj : NciSmObject} (h : obj.sm.liAHb.bytes.length = 15) :
  (nciCoreParamGetLiAHb obj).value
    = NciAtsHb.value ⟨min obj.sm.liAHb.len 15, obj.sm.liAHb.bytes⟩
  := by
  have hfifteen : (min obj.sm.liAHb.len 15).toNat ≤ 15 := by
    rw [toNat_min_uint8]
    exact Nat.min_le_right _ _
  rw [NciAtsHb.value, NciAtsHb.value]
  dsimp only [nciCoreParamGetLiAHb]
  rw [Nat.min_eq_left hfifteen, take_zeroPadded_take h hfifteen]

/-- What is read is what is stored. -/
theorem NciSmObject.Sized.settings {obj : NciSmObject} (h : obj.Sized) (key : NciCoreParamKey) :
  key.Same (obj.settings key) (key.fitting (obj.sm.stored key))
  := by
  have hkey := h.stored key
  cases key with
  | llcVersion => rfl
  | llcWks => rfl
  | laNfcid1 => exact same_getLaNfcid1 hkey
  | liAHb => exact ⟨rfl, value_getLiAHb hkey⟩

/-- What is read depends on what is stored. -/
theorem settings_congr {obj obj' : NciSmObject} (h : obj'.sm.stored = obj.sm.stored) :
  obj'.settings = obj.settings
  := by
  have hsm : obj'.sm.llcVersion = obj.sm.llcVersion ∧ obj'.sm.llcWks = obj.sm.llcWks
      ∧ obj'.sm.laNfcid1 = obj.sm.laNfcid1 ∧ obj'.sm.liAHb = obj.sm.liAHb :=
    ⟨congrFun h .llcVersion, congrFun h .llcWks, congrFun h .laNfcid1, congrFun h .liAHb⟩
  funext key
  cases key with
  | llcVersion => exact hsm.1
  | llcWks => exact hsm.2.1
  | laNfcid1 =>
      show nciCoreParamGetLaNfcid1 obj' = nciCoreParamGetLaNfcid1 obj
      rw [nciCoreParamGetLaNfcid1, hsm.2.2.1]
      rfl
  | liAHb =>
      show nciCoreParamGetLiAHb obj' = nciCoreParamGetLiAHb obj
      rw [nciCoreParamGetLiAHb, hsm.2.2.2]
      rfl

/-! ### Setting -/

section

variable {obj : NciSmObject}

theorem setLlcVersion_eq (version : UInt8) (obj : NciSmObject) :
  nciCoreParamSetLlcVersion version obj = { obj with sm := { obj.sm with llcVersion := version } }
  := by
  rw [nciCoreParamSetLlcVersion]
  split
  · rfl
  · rename_i h
    rw [← not_not.mp h]

theorem setLlcWks_eq (wks : UInt16) (obj : NciSmObject) :
  nciCoreParamSetLlcWks wks obj = { obj with sm := { obj.sm with llcWks := wks ||| 1 } }
  := by
  rw [nciCoreParamSetLlcWks]
  dsimp only
  split
  · rfl
  · rename_i h
    rw [← not_not.mp h]

/-- What is the same as an identifier with one of the possible lengths has one of them. -/
theorem SameNfcid1.len {id1 id2 : NciNfcid1} (h : SameNfcid1 id1 id2)
    (hlen : id1.len = 0 ∨ id1.len = 4 ∨ id1.len = 7 ∨ id1.len = 10) :
  id2.len = 0 ∨ id2.len = 4 ∨ id2.len = 7 ∨ id2.len = 10
  := by
  cases h with
  | dynamic _ h2 =>
      rcases (dynamic_iff id2).mp h2 with h0 | ⟨h4, -⟩
      · exact Or.inl h0
      · exact Or.inr (Or.inl h4)
  | value hsame _ =>
      rw [← hsame]
      exact hlen

/-- An identifier that is set is stored in one form or another. -/
theorem setLaNfcid1_eq (hobj : obj.sm.laNfcid1.bytes.length = 10) {id : NciNfcid1}
    (hid : id.bytes.length = 10) :
  ∃ stored, nciSmSetLaNfcid1 (some id) obj = { obj with sm := { obj.sm with laNfcid1 := stored } }
    ∧ stored.bytes.length = 10
    ∧ SameNfcid1 ⟨min stored.len 10, stored.bytes⟩
      (acceptedLaNfcid1 id ⟨min obj.sm.laNfcid1.len 10, obj.sm.laNfcid1.bytes⟩)
  := by
  have hclamped : ∀ {stored : NciNfcid1},
      stored.len = 0 ∨ stored.len = 4 ∨ stored.len = 7 ∨ stored.len = 10 →
      (⟨min stored.len 10, stored.bytes⟩ : NciNfcid1) = stored := by
    rintro ⟨len, bytes⟩ hlen
    dsimp only at hlen ⊢
    have hten : len.toNat ≤ 10 := @len_le_ten ⟨len, bytes⟩ hlen
    rw [UInt8.min_def, if_pos (UInt8.le_iff_toNat_le.mpr hten)]
  rw [nciSmSetLaNfcid1, acceptedLaNfcid1]
  dsimp only
  by_cases hlen : id.len = 0 ∨ id.len = 4 ∨ id.len = 7 ∨ id.len = 10
  · rw [if_pos hlen, if_pos hlen]
    split
    · rename_i hequal
      have hsame := (nciNfcid1Equal_iff_same _ _).mp hequal
      refine ⟨obj.sm.laNfcid1, rfl, hobj, ?_⟩
      rw [hclamped (hsame.len hlen)]
      exact hsame.symm
    · refine ⟨_, rfl, length_zeroPadded_take _ _ _ hid, ?_⟩
      rw [hclamped (storedLen hlen)]
      apply sameNfcid1_stored _ (len_le_ten hlen)
      rw [hid]
      exact len_le_ten hlen
  · rw [if_neg hlen, if_neg hlen]
    exact ⟨obj.sm.laNfcid1, rfl, hobj, SameNfcid1.refl _⟩

/-- The historical bytes that are set are stored. -/
theorem setLiAHb_eq (obj : NciSmObject) {hb : NciAtsHb} (hhb : hb.bytes.length = 15) :
  ∃ stored, nciSmSetLiAHb (some hb) obj = { obj with sm := { obj.sm with liAHb := stored } }
    ∧ stored.bytes.length = 15
    ∧ min stored.len 15 = min hb.len 15
    ∧ NciAtsHb.value ⟨min stored.len 15, stored.bytes⟩ = NciAtsHb.value ⟨min hb.len 15, hb.bytes⟩
  := by
  have hlen : min (min hb.len 15) 15 = min hb.len 15 := by
    rw [← UInt8.toNat_inj, toNat_min_uint8 (min hb.len 15) 15, toNat_min_uint8]
    exact Nat.min_eq_left (Nat.min_le_right _ _)
  have hfifteen : (min hb.len 15).toNat ≤ 15 := by
    rw [toNat_min_uint8]
    exact Nat.min_le_right _ _
  refine ⟨_, rfl, length_zeroPadded_take _ _ _ hhb, hlen, ?_⟩
  dsimp only
  rw [NciAtsHb.value, NciAtsHb.value, hlen]
  dsimp only
  rw [Nat.min_eq_left hfifteen, take_zeroPadded_take hhb hfifteen]

/-- A function changes one parameter, which is given the value `v`. -/
def Stores (key : NciCoreParamKey) (v : key.Value) (obj obj' : NciSmObject) : Prop :=
  ∃ stored : key.Value, obj' = obj.store (Function.update obj.sm.stored key stored)
    ∧ key.Sized stored ∧ key.Same (key.fitting stored) v

/-- A parameter that is set has the value that is accepted. -/
theorem stores_set (hobj : obj.Sized) {key : NciCoreParamKey} {value : key.Value}
    (hvalue : key.Sized value) :
  Stores key (key.accepted value (key.fitting (obj.sm.stored key))) obj
    ((nciCoreParams key).set value obj)
  := by
  have hkey := hobj.stored key
  cases key with
  | llcVersion =>
      refine ⟨value, ?_, trivial, rfl⟩
      exact (setLlcVersion_eq value obj).trans rfl
  | llcWks =>
      refine ⟨UInt16.lor value 1, ?_, trivial, rfl⟩
      exact (setLlcWks_eq value obj).trans rfl
  | laNfcid1 =>
      obtain ⟨stored, hset, hsized, hsame⟩ := setLaNfcid1_eq hkey hvalue
      exact ⟨stored, hset.trans rfl, hsized, hsame⟩
  | liAHb =>
      obtain ⟨stored, hset, hsized, hlen, hsame⟩ := setLiAHb_eq obj hvalue
      exact ⟨stored, hset.trans rfl, hsized, hlen, hsame⟩

/-- A parameter that is set back has its default. -/
theorem stores_reset (hobj : obj.Sized) (key : NciCoreParamKey) :
  Stores key (obj.defaults key) obj ((nciCoreParams key).reset obj)
  := by
  have hkey := hobj.defaults key
  cases key with
  | llcVersion => exact ⟨nciDefaultLlcVersion, setLlcVersion_eq _ obj, trivial, rfl⟩
  | llcWks => exact ⟨nciDefaultLlcWks, setLlcWks_eq _ obj, trivial, rfl⟩
  | laNfcid1 => exact ⟨obj.defaultLaNfcid1, rfl, hkey, SameNfcid1.refl _⟩
  | liAHb => exact ⟨obj.defaultLiAHb, rfl, hkey, rfl, rfl⟩

end

/-! ### The values that are wanted -/

/-- The object has the values `s`, and differs from `orig` in its parameters only. -/
structure NciSmObject.Takes (orig : NciSmObject) (s : NciSettings) (obj : NciSmObject) : Prop where
  sized : obj.Sized
  settings : obj.settings.Same s
  rest : orig.store obj.sm.stored = obj

namespace NciSmObject.Takes

variable {orig obj obj' : NciSmObject} {s : NciSettings}

theorem refl (h : orig.Sized) :
  orig.Takes orig.settings orig
  := ⟨h, NciSettings.same_refl _, rfl⟩

theorem defaults (h : orig.Takes s obj) :
  obj.defaults = orig.defaults
  := by rw [← h.rest, NciSmObject.defaults_store]

/-- One parameter is changed. -/
theorem update (h : orig.Takes s obj) {key : NciCoreParamKey} {v : key.Value}
    (hstores : Stores key v obj obj') :
  orig.Takes (Function.update s key v) obj'
  := by
  obtain ⟨stored, hobj', hsized, hsame⟩ := hstores
  have hstored : obj'.sm.stored = Function.update obj.sm.stored key stored := by
    rw [hobj', NciSmObject.stored_store]
  have hsized' : obj'.Sized := by
    constructor
    · intro key'
      rw [hstored]
      by_cases hkey : key' = key
      · subst hkey
        rw [Function.update_self]
        exact hsized
      · rw [Function.update_of_ne hkey]
        exact h.sized.stored key'
    · rw [hobj', NciSmObject.defaults_store]
      exact h.sized.defaults
  refine ⟨hsized', ?_, ?_⟩
  · intro key'
    have hread := hsized'.settings key'
    rw [hstored] at hread
    by_cases hkey : key' = key
    · subst hkey
      rw [Function.update_self] at hread ⊢
      exact hread.trans hsame
    · rw [Function.update_of_ne hkey] at hread ⊢
      exact hread.trans ((h.sized.settings key').symm.trans (h.settings key'))
  · rw [hstored, hobj', ← h.rest]
    rfl

/-- Being the same is all that matters. -/
theorem of_same (h : orig.Takes s obj) {s' : NciSettings} (hsame : s.Same s') :
  orig.Takes s' obj
  := by
  refine ⟨h.sized, ?_, h.rest⟩
  intro key
  exact (h.settings key).trans (hsame key)

/-- A parameter is set. -/
theorem apply (h : orig.Takes s obj) {param : NciCoreParam} (hparam : param.Sized) :
  orig.Takes (s.apply param) (param.apply obj)
  := by
  cases param with
  | other _ => exact h
  | known key value =>
      apply (h.update (stores_set h.sized hparam)).of_same
      intro key'
      rw [NciSettings.apply]
      by_cases hkey : key' = key
      · subst hkey
        rw [Function.update_self, Function.update_self]
        have hsame : key'.Same (key'.fitting (obj.sm.stored key')) (s key') :=
          (h.sized.settings key').symm.trans (h.settings key')
        exact hsame.accepted value
      · rw [Function.update_of_ne hkey, Function.update_of_ne hkey]
        exact (equivalence_same key').refl _

/-- Parameters are set one after another. -/
theorem foldl_apply {params : List NciCoreParam} (hparams : ∀ param ∈ params, param.Sized)
    (h : orig.Takes s obj) :
  orig.Takes (params.foldl NciSettings.apply s) (params.foldl NciCoreParam.apply obj)
  := by
  induction params generalizing s obj with
  | nil => exact h
  | cons param params ih =>
      apply ih fun param' hmem => hparams param' (List.mem_cons_of_mem param hmem)
      exact h.apply (hparams param List.mem_cons_self)

/-- A parameter is set back. -/
theorem reset (h : orig.Takes s obj) (key : NciCoreParamKey) :
  orig.Takes (Function.update s key (orig.defaults key)) ((nciCoreParams key).reset obj)
  := by
  rw [← h.defaults]
  exact h.update (stores_reset h.sized key)

/-- All parameters are set back. -/
theorem reset_all (h : orig.Takes s obj) :
  orig.Takes orig.defaults (nciCoreParamsReset obj)
  := by
  have hall : Function.update (Function.update (Function.update (Function.update s
      .llcVersion (orig.defaults .llcVersion)) .llcWks (orig.defaults .llcWks))
      .laNfcid1 (orig.defaults .laNfcid1)) .liAHb (orig.defaults .liAHb) = orig.defaults := by
    funext key
    cases key <;> rfl
  rw [← hall]
  exact (((h.reset .llcVersion).reset .llcWks).reset .laNfcid1).reset .liAHb

end NciSmObject.Takes

/-- What is stored after a list of parameters has been set are the values that are wanted. -/
theorem takes_nciCoreParamsApply {obj : NciSmObject} (h : obj.Sized) {params : List NciCoreParam}
    (hparams : ∀ param ∈ params, param.Sized) (reset : Bool) :
  obj.Takes (obj.wanted params reset) (nciCoreParamsApply params reset obj)
  := by
  rw [nciCoreParamsApply, NciSmObject.wanted]
  apply NciSmObject.Takes.foldl_apply hparams
  have hrefl := NciSmObject.Takes.refl h
  cases reset with
  | true => exact hrefl.reset_all
  | false => exact hrefl

/-! ### Changes -/

/-- A parameter has changed if its value is not the same any more. -/
theorem nciCoreParamChanged_iff {obj obj' : NciSmObject} {s : NciSettings} (h : obj.Takes s obj')
    (key : NciCoreParamKey) :
  nciCoreParamChanged obj obj' key = true ↔ ¬ key.Same (obj.settings key) (s key)
  := by
  have hsame : key.Same (obj.settings key) (obj'.settings key)
      ↔ key.Same (obj.settings key) (s key) := by
    constructor
    · intro hsame
      exact hsame.trans (h.settings key)
    · intro hsame
      exact hsame.trans (h.settings key).symm
  rw [nciCoreParamChanged, Bool.not_eq_true', ← hsame, ← equal_iff_same, Bool.not_eq_true]
  rfl

theorem mem_nciCoreParamsChanged {obj obj' : NciSmObject} {s : NciSettings} (h : obj.Takes s obj')
    (key : NciCoreParamKey) :
  key ∈ nciCoreParamsChanged obj obj' ↔ ¬ key.Same (obj.settings key) (s key)
  := by
  have hall : key ∈ NciCoreParamKey.all := by cases key <;> decide
  rw [nciCoreParamsChanged, List.mem_filter, nciCoreParamChanged_iff h]
  exact and_iff_right hall

/-- Changes are found in ascending order. -/
theorem sublist_nciCoreParamsChanged (obj obj' : NciSmObject) :
  (nciCoreParamsChanged obj obj').Sublist NciCoreParamKey.all
  := List.filter_sublist

end Nci
