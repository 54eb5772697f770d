import LibNciCore.Util.Copy

/-!
# Copies of parameters are deep

The copy of a structure is the same as the structure, if where things are is not looked at: the same
fields, and the same bytes that its views refer to. What the copy consists of lies in its own block,
where nothing has been before.
-/

namespace Nci

open Memory Program Reads

/-! ### Everything that belongs to a structure -/

/-- The bytes of a view, if it has any. -/
def GUtilData.content (M : CMemory) (v : GUtilData) : Option (Option (List UInt8)) :=
  match v.bytes with
  | some i => (M.readMany byteLayout i v.size).map some
  | none => some none

/-- Where the bytes of a view are. -/
def GUtilData.region (v : GUtilData) : Option Region := v.bytes.map fun i => ⟨i, v.size⟩

/-- The structure at an address, with everything that belongs to it. -/
def ViewLayout.deep {α : Type} (T : ViewLayout α) (M : CMemory) (i : Nat) :
    Option (α × List (Option (List UInt8))) :=
  (M.read T.toLayout i).bind fun a =>
    ((T.views a).mapM (GUtilData.content M)).map fun contents => (T.forget a, contents)

/-- The regions that the structure at an address and everything that belongs to it occupy. -/
def ViewLayout.regions {α : Type} (T : ViewLayout α) (M : CMemory) (i : Nat) : List Region :=
  ⟨i, T.size⟩ ::
    match M.read T.toLayout i with
    | some a => (T.views a).filterMap GUtilData.region
    | none => []

/-- A block that has been allocated on top of what there was in memory. -/
structure Room (M₀ M : CMemory) (r : Region) : Prop where
  extends_base : M.Extends M₀
  fresh : M₀.Fresh r
  inUse : M.InUse r

/-- What belongs to a structure, where it refers to something with at most one view. -/
structure Described {α : Type} (T : ViewLayout α) (field : ViewField α) (a : α) : Prop where
  views : T.views a = [field.view a]
  proper : (field.view a).bytes.isSome = ((field.view a).size != 0)
  views_setBytes : ∀ i, T.views (field.setBytes i a) = [⟨some i, (field.view a).size⟩]
  forget_setBytes : ∀ i, T.forget (field.setBytes i a) = T.forget a

section

variable {α : Type} {T : ViewLayout α} {field : ViewField α} {M₀ M M' : CMemory} {r : Region}
  {src dest bytes : Nat} {a : α} {c : Option (List UInt8)}

theorem Room.step (h : Room M₀ M r) (hsame : SameBut r M M') (hinUse : M'.InUse r) :
  Room M₀ M' r
  := ⟨hsame.extends h.fresh h.extends_base, h.fresh, hinUse⟩

theorem Room.inside {r' : Region} (h : Room M₀ M r) (hr : r'.Inside r) :
  Room M₀ M r'
  := ⟨h.extends_base, h.fresh.inside hr, h.inUse.inside hr⟩

/-- Something has been changed in another block. -/
theorem Room.other {r' : Region} (h : Room M₀ M r) (h' : Room M₀ M' r')
    (hsame : SameBut r' M M') :
  Room M₀ M' r
  := ⟨h'.extends_base, h.fresh, hsame.inUse h'.inUse h.inUse⟩

/-- A structure with one view. -/
theorem deep_eq (hread : M.read T.toLayout src = some a) {v : GUtilData} (hviews : T.views a = [v])
    (hv : v.content M = some c) :
  T.deep M src = some (T.forget a, [c])
  := by
  rw [ViewLayout.deep, hread, Option.bind_some, hviews, List.mapM_cons, hv]
  rfl

theorem regions_eq (hread : M.read T.toLayout src = some a) {v : GUtilData}
    (hviews : T.views a = [v]) :
  T.regions M src = ⟨src, T.size⟩ :: v.region.toList
  := by
  rw [ViewLayout.regions, hread]
  dsimp only
  rw [hviews, List.filterMap_cons]
  cases v.region <;> rfl

/-- The first step: the fields are copied. -/
theorem returns_copyFields {L : Layout CValue α} (hroom : Room M₀ M r)
    (hread : M₀.read L src = some a) (hdest : Region.Inside ⟨dest, L.size⟩ r) :
  (memcpy dest src L.size : CProgram Unit).Returns M () (M.copy dest src L.size)
    ∧ Room M₀ (M.copy dest src L.size) r
    ∧ SameBut r M (M.copy dest src L.size)
    ∧ (M.copy dest src L.size).read L dest = some a
  := by
  have hsrc : M.InUse ⟨src, L.size⟩ := hroom.extends_base.inUse (inUse_of_read hread)
  have hsame : SameBut r M (M.copy dest src L.size) := (sameBut_copy M dest src L.size).mono hdest
  refine ⟨returns_memcpy (hroom.inUse.inside hdest) hsrc, ?_, hsame, ?_⟩
  · exact hroom.step hsame (inUse_copy hsrc hroom.inUse)
  · rw [read_copy]
    exact hroom.extends_base.read hread

/-- A structure is stored. -/
theorem returns_storeIn {L : Layout CValue α} (hroom : Room M₀ M r)
    (hdest : Region.Inside ⟨dest, L.size⟩ r) (a : α) :
  ∃ M', (store L dest a : CProgram Unit).Returns M () M' ∧ Room M₀ M' r
    ∧ SameBut ⟨dest, L.size⟩ M M' ∧ M'.read L dest = some a
  := by
  have hsame := sameBut_write M L dest a
  refine ⟨M.write L dest a, returns_store (hroom.inUse.inside hdest), ?_, hsame, read_write _ _ _⟩
  exact hroom.step (hsame.mono hdest) (inUse_write hroom.inUse dest a)

/-- Bytes are copied. -/
theorem returns_copyBytes {i n : Nat} {bs : List UInt8} (hroom : Room M₀ M r)
    (hbs : M₀.readMany byteLayout i n = some bs) (hbytes : Region.Inside ⟨bytes, n⟩ r) :
  ∃ M', (memcpy bytes i n : CProgram Unit).Returns M () M' ∧ Room M₀ M' r
    ∧ SameBut ⟨bytes, n⟩ M M' ∧ M'.readMany byteLayout bytes n = some bs
  := by
  have hone : n * byteLayout.size = n := Nat.mul_one n
  have hsrc : M.InUse ⟨i, n⟩ := by
    have hused := hroom.extends_base.inUse (inUse_of_readMany hbs)
    rw [hone] at hused
    exact hused
  have hcopied : (M.copy bytes i n).readMany byteLayout bytes n = some bs := by
    have hcopy := readMany_copy (T := byteLayout) M bytes i n
    rw [hone] at hcopy
    rw [hcopy]
    exact hroom.extends_base.readMany hbs
  have hsame := sameBut_copy M bytes i n
  refine ⟨M.copy bytes i n, returns_memcpy (hroom.inUse.inside hbytes) hsrc, ?_, hsame, hcopied⟩
  exact hroom.step (hsame.mono hbytes) (inUse_copy hsrc hroom.inUse)

/-- Bytes that have been copied are the content of the view of the copy. -/
theorem content_of_readMany {i n : Nat} {bs : List UInt8}
    (h : M.readMany byteLayout i n = some bs) :
  GUtilData.content M ⟨some i, n⟩ = some (some bs)
  := by
  rw [GUtilData.content]
  dsimp only
  rw [h]
  rfl

/-- Without bytes there is nothing more to do. -/
theorem copied_of_none (hread₀ : M₀.read T.toLayout src = some a) (hfield : Described T field a)
    (hread : M.read T.toLayout dest = some a) (hnone : (field.view a).bytes = none) :
  T.deep M dest = T.deep M₀ src ∧ (T.deep M₀ src).isSome = true
    ∧ T.regions M dest = [⟨dest, T.size⟩]
  := by
  have hcontent : ∀ M : CMemory, (field.view a).content M = some none := by
    intro M
    rw [GUtilData.content, hnone]
  rw [deep_eq hread hfield.views (hcontent M), deep_eq hread₀ hfield.views (hcontent M₀),
    regions_eq hread hfield.views, GUtilData.region, hnone]
  exact ⟨rfl, rfl, rfl⟩

/-- The second step: the bytes are copied, and the copy is made to refer to them. -/
theorem returns_copyView (hroom : Room M₀ M r) (hread₀ : M₀.read T.toLayout src = some a)
    (hfield : Described T field a) (hcontent : (field.view a).content M₀ = some c)
    (hread : M.read T.toLayout dest = some a) (hsome : (field.view a).bytes.isSome = true)
    (hdest : Region.Inside ⟨dest, T.size⟩ r)
    (hbytes : Region.Inside ⟨bytes, (field.view a).size⟩ r) (hle : dest + T.size ≤ bytes) :
  ∃ M', (copyView T.toLayout field (field.view a) dest bytes).Returns M () M'
    ∧ Room M₀ M' r ∧ SameBut r M M'
    ∧ T.deep M' dest = T.deep M₀ src ∧ (T.deep M₀ src).isSome = true
    ∧ T.regions M' dest = [⟨dest, T.size⟩, ⟨bytes, (field.view a).size⟩]
  := by
  obtain ⟨i, hi⟩ := Option.isSome_iff_exists.mp hsome
  have hcontent₀ := hcontent
  rw [GUtilData.content, hi] at hcontent
  obtain ⟨bs, hbs, rfl⟩ := Option.map_eq_some_iff.mp hcontent
  have hapart : Region.Apart ⟨bytes, (field.view a).size⟩ ⟨dest, T.size⟩ := by
    apply Region.Apart.symm
    apply Region.apart_of_le
    exact hle
  obtain ⟨M₁, hcopy, hroom₁, hsame₁, hbytes₁⟩ := returns_copyBytes hroom hbs hbytes
  have hread₁ : M₁.read T.toLayout dest = some a := by
    rw [(hsame₁.agrees hapart).read, hread]
  obtain ⟨M₂, hstore, hroom₂, hsame₂, hread₂⟩ :=
    returns_storeIn hroom₁ hdest (field.setBytes bytes a)
  have hbytes₂ : M₂.readMany byteLayout bytes (field.view a).size = some bs := by
    rw [(hsame₂.agrees _).readMany, hbytes₁]
    rw [show (field.view a).size * byteLayout.size = (field.view a).size from Nat.mul_one _]
    exact hapart.symm
  have hviews := hfield.views_setBytes bytes
  refine ⟨M₂, ?_, hroom₂, (hsame₁.mono hbytes).trans (hsame₂.mono hdest), ?_, ?_, ?_⟩
  · rw [copyView, hi]
    apply hcopy.bind
    apply (returns_load hread₁).bind
    exact hstore
  · rw [deep_eq hread₂ hviews (content_of_readMany hbytes₂),
      deep_eq hread₀ hfield.views hcontent₀, hfield.forget_setBytes]
  · rw [deep_eq hread₀ hfield.views hcontent₀]
    rfl
  · rw [regions_eq hread₂ hviews]
    rfl

end

/-! ### What is parsed can be copied -/

theorem le_gAlign8 (n : Nat) :
  n ≤ gAlign8 n
  := by
  rw [gAlign8]
  omega

theorem sizeWithView_le (size : Nat) (v : GUtilData) :
  size ≤ sizeWithView size v
  := by
  rw [sizeWithView]
  split
  · exact (le_gAlign8 size).trans (Nat.le_add_right _ _)
  · exact Nat.le_refl size

theorem sizeWithView_some {size : Nat} {v : GUtilData} (h : v.bytes.isSome = (v.size != 0))
    (hsome : v.bytes.isSome = true) :
  sizeWithView size v = gAlign8 size + gAlign8 v.size
  := by
  rw [h] at hsome
  exact if_pos (bne_iff_ne.mp hsome)

theorem sizeWithView_none {size : Nat} {v : GUtilData} (h : v.bytes.isSome = (v.size != 0))
    (hnone : v.bytes = none) :
  sizeWithView size v = size
  := by
  rw [hnone] at h
  have hzero : v.size = 0 := bne_eq_false_iff_eq.mp h.symm
  exact if_neg (not_not.mpr hzero)

/-! ### Copying -/

/-- The structure at `src` has been copied to the `size` bytes that start at `dest`, with everything
that belongs to it. -/
structure ViewLayout.Copied {α : Type} (T : ViewLayout α) (M₀ M M' : CMemory)
    (src dest size : Nat) : Prop where
  room : Room M₀ M' ⟨dest, size⟩
  same : SameBut ⟨dest, size⟩ M M'
  deep : T.deep M' dest = T.deep M₀ src
  isSome : (T.deep M₀ src).isSome = true
  packed : Region.Packed dest (T.regions M' dest) (dest + size)

section

variable {α : Type} {T : ViewLayout α} {field : ViewField α} {M₀ M : CMemory} {src dest size : Nat}
  {a : α}

/-- A structure that refers to nothing is copied. -/
theorem copied_fields (hroom : Room M₀ M ⟨dest, size⟩) (hsize : T.size ≤ size)
    (hread : M₀.read T.toLayout src = some a) (hviews : T.views a = []) :
  (memcpy dest src T.size : CProgram Unit).Returns M () (M.copy dest src T.size)
    ∧ T.Copied M₀ M (M.copy dest src T.size) src dest size
  := by
  have hinside : Region.Inside ⟨dest, T.size⟩ ⟨dest, size⟩ :=
    ⟨Nat.le_refl dest, Nat.add_le_add_left hsize dest⟩
  obtain ⟨hreturns, hroom', hsame, hread'⟩ := returns_copyFields hroom hread hinside
  have hdeep : ∀ {M : CMemory} {i : Nat}, M.read T.toLayout i = some a →
      T.deep M i = some (T.forget a, []) := by
    intro M i h
    rw [ViewLayout.deep, h, Option.bind_some, hviews]
    rfl
  have hregions : T.regions (M.copy dest src T.size) dest = [⟨dest, T.size⟩] := by
    rw [ViewLayout.regions, hread']
    dsimp only
    rw [hviews]
    rfl
  refine ⟨hreturns, hroom', hsame, ?_, ?_, ?_⟩
  · rw [hdeep hread', hdeep hread]
  · rw [hdeep hread]
    rfl
  · rw [hregions]
    exact ⟨Nat.le_refl dest, hinside.2⟩

/-- A structure that refers to something is copied. -/
theorem copied_view (hroom : Room M₀ M ⟨dest, size⟩) (hsize : T.size ≤ size)
    (hread : M₀.read T.toLayout src = some a) (hfield : Described T field a)
    (hcontent : ∃ c, (field.view a).content M₀ = some c)
    (hbehind : (field.view a).bytes.isSome = true →
      gAlign8 T.size + (field.view a).size ≤ size) :
  ∃ M₁ M₂, (memcpy dest src T.size : CProgram Unit).Returns M () M₁
    ∧ (if (field.view a).bytes.isSome then
        copyView T.toLayout field (field.view a) dest (dest + gAlign8 T.size)
      else pure ()).Returns M₁ () M₂
    ∧ T.Copied M₀ M M₂ src dest size
  := by
  obtain ⟨c, hcontent⟩ := hcontent
  have hinside : Region.Inside ⟨dest, T.size⟩ ⟨dest, size⟩ :=
    ⟨Nat.le_refl dest, Nat.add_le_add_left hsize dest⟩
  obtain ⟨hreturns, hroom', hsame, hread'⟩ := returns_copyFields hroom hread hinside
  refine ⟨M.copy dest src T.size, ?_⟩
  by_cases hsome : (field.view a).bytes.isSome = true
  · have hroomy := hbehind hsome
    have hbytes : Region.Inside ⟨dest + gAlign8 T.size, (field.view a).size⟩ ⟨dest, size⟩ := by
      constructor
      · exact Nat.le_add_right dest _
      · show dest + gAlign8 T.size + (field.view a).size ≤ dest + size
        omega
    obtain ⟨M₂, hcopied, hroom₂, hsame₂, hdeep, hdeep₀, hregions⟩ := returns_copyView hroom' hread
      hfield hcontent hread' hsome hinside hbytes (Nat.add_le_add_left (le_gAlign8 T.size) dest)
    refine ⟨M₂, hreturns, ?_, hroom₂, hsame.trans hsame₂, hdeep, hdeep₀, ?_⟩
    · rw [if_pos hsome]
      exact hcopied
    · rw [hregions]
      refine ⟨Nat.le_refl dest, ?_, hbytes.2⟩
      exact Nat.add_le_add_left (le_gAlign8 T.size) dest
  · have hnone : (field.view a).bytes = none := Option.not_isSome_iff_eq_none.mp hsome
    obtain ⟨hdeep, hdeep₀, hregions⟩ := copied_of_none hread hfield hread' hnone
    refine ⟨M.copy dest src T.size, hreturns, ?_, hroom', hsame, hdeep, hdeep₀, ?_⟩
    · rw [if_neg hsome]
      exact returns_pure _ _
    · rw [hregions]
      exact ⟨Nat.le_refl dest, hinside.2⟩

end

/-- The bytes that have been parsed are in memory. -/
def InMemory (M : CMemory) (mem : Nat → UInt8) (base n : Nat) : Prop :=
  ∀ i, base ≤ i → i < base + n → M i = some ⟨.byte (mem i), 0⟩

theorem readMany_of_inMemory {M : CMemory} {mem : Nat → UInt8} {base n : Nat}
    (h : InMemory M mem base n) {i k : Nat} (hi : base ≤ i) (hk : i + k ≤ base + n) :
  (M.readMany byteLayout i k).isSome = true
  := by
  induction k generalizing i with
  | zero => rfl
  | succ k ih =>
      have hbyte : M.read byteLayout i = some (mem i) := by
        apply read_of_pieces (v := .byte (mem i)) rfl
        intro j hj
        obtain rfl : j = 0 := Nat.lt_one_iff.mp hj
        exact h i hi (by omega)
      have hrest := ih (Nat.le_add_right_of_le hi) (i := i + 1) (by omega)
      obtain ⟨bs, hbs⟩ := Option.isSome_iff_exists.mp hrest
      rw [readMany, hbyte, Option.bind_some]
      show ((M.readMany byteLayout (i + 1) k).map _).isSome = true
      rw [hbs]
      rfl

/-- The views of what is parsed within its bounds can be read. -/
theorem content_of_within {M : CMemory} {mem : Nat → UInt8} {base n : Nat}
    (h : InMemory M mem base n) {v : GUtilData} (hv : v.Within base n) :
  ∃ c, v.content M = some c
  := by
  rw [GUtilData.content]
  rw [GUtilData.Within] at hv
  split
  · rename_i i hi
    rw [hi] at hv
    obtain ⟨bs, hbs⟩ := Option.isSome_iff_exists.mp (readMany_of_inMemory h hv.1 hv.2)
    rw [hbs]
    exact ⟨_, rfl⟩
  · exact ⟨_, rfl⟩

section

variable {S : CSizes} {mem : Nat → UInt8} {base n : Nat}

theorem parsed_pollA {p : NciModeParam} (h : (nciParseModeParamPollA base n).value mem = some p) :
  p.views = []
  := by
  rw [nciParseModeParamPollA] at h
  obtain ⟨-, h⟩ := value_guard h
  rw [value_bind, value_bind] at h
  obtain ⟨-, h⟩ := value_guard h
  rw [value_bind] at h
  obtain ⟨-, h⟩ := value_guard h
  simp only [value_bind, value_pure] at h
  obtain rfl := Option.some.inj h
  rfl

theorem parsed_pollB {p : NciModeParam} (h : (nciParseModeParamPollB base n).value mem = some p) :
  Described S.modeParamLayout protInfoField p
  := by
  rw [nciParseModeParamPollB] at h
  obtain ⟨-, h⟩ := value_guard h
  rw [value_bind] at h
  obtain ⟨hlen, h⟩ := value_guard h
  simp only [value_bind, value_pure] at h
  obtain rfl := Option.some.inj h
  refine ⟨rfl, ?_, fun _ => rfl, fun _ => rfl⟩
  have hpos : (Reads.value (Reads.byte base) mem).toNat - 8 ≠ 0 := by omega
  exact (bne_iff_ne.mpr hpos).symm

theorem parsed_pollF {p : NciModeParam} (h : (nciParseModeParamPollF base n).value mem = some p) :
  p.views = []
  := by
  rw [nciParseModeParamPollF] at h
  obtain ⟨-, h⟩ := value_guard h
  rw [value_bind] at h
  obtain ⟨-, h⟩ := value_guard h
  simp only [value_bind, value_pure] at h
  obtain rfl := Option.some.inj h
  rfl

theorem parsed_listenF {p : NciModeParam}
    (h : (nciParseModeParamListenF base n).value mem = some p) :
  Described S.modeParamLayout nfcid2Field p
  := by
  rw [nciParseModeParamListenF] at h
  obtain ⟨-, h⟩ := value_guard h
  rw [value_bind] at h
  obtain ⟨-, h⟩ := value_guard h
  rw [value_ite] at h
  split at h
  · obtain rfl := Option.some.inj h
    exact ⟨rfl, rfl, fun _ => rfl, fun _ => rfl⟩
  · obtain ⟨hlen, h⟩ := value_guard h
    obtain rfl := Option.some.inj h
    refine ⟨rfl, ?_, fun _ => rfl, fun _ => rfl⟩
    show true = (UInt8.toNat _ != 0)
    rw [hlen]
    rfl

theorem parsed_pollV {p : NciModeParam} (h : (nciParseModeParamPollV base n).value mem = some p) :
  p.views = []
  := by
  rw [nciParseModeParamPollV] at h
  obtain ⟨-, h⟩ := value_guard h
  simp only [value_bind, value_pure] at h
  obtain rfl := Option.some.inj h
  rfl

/-- What is copied of the parameters, and what the size is that is computed: there is nothing that
they refer to, or it is what one of their views refers to. -/
inductive ModeParamCopied (S : CSizes) (mode : NciMode) (p : NciModeParam) : Prop
  | fields : p.views = [] → S.modeParamSize p mode = S.modeParam →
      (∀ dest src, nciModeParamCopyImpl S dest src mode = do
        memcpy dest src S.modeParam
        pure S.modeParam) →
      ModeParamCopied S mode p
  | view (field : ViewField NciModeParam) : Described S.modeParamLayout field p →
      S.modeParamSize p mode = sizeWithView S.modeParam (field.view p) →
      (∀ dest src, nciModeParamCopyImpl S dest src mode
        = nciModeParamCopyView S field dest src) →
      ModeParamCopied S mode p

/-- All that is parsed is copied. -/
theorem modeParamCopied {mode : NciMode} {p : NciModeParam}
    (h : (nciParseModeParam mode base n).value mem = some p) :
  ModeParamCopied S mode p
  := by
  cases mode with
  | activePollA =>
      rw [nciParseModeParam, value_ite] at h
      split at h
      · cases h
      · exact .fields (parsed_pollA h) rfl fun _ _ => rfl
  | passivePollA => exact .fields (parsed_pollA h) rfl fun _ _ => rfl
  | passivePollB => exact .view protInfoField (parsed_pollB h) rfl fun _ _ => rfl
  | activePollF => exact .fields (parsed_pollF h) rfl fun _ _ => rfl
  | passivePollF => exact .fields (parsed_pollF h) rfl fun _ _ => rfl
  | activeListenF => exact .view nfcid2Field (parsed_listenF h) rfl fun _ _ => rfl
  | passiveListenF => exact .view nfcid2Field (parsed_listenF h) rfl fun _ _ => rfl
  | passivePollV => exact .fields (parsed_pollV h) rfl fun _ _ => rfl
  | passiveListenV => cases h
  | passiveListenA => cases h
  | passiveListenB => cases h
  | activeListenA => cases h
  | other byte => cases h

/-! ### Parameters of a mode -/

variable {M₀ M : CMemory} {src dest : Nat}

theorem returns_nciModeParamCopyView {field : ViewField NciModeParam} {p : NciModeParam}
    (hroom : Room M₀ M ⟨dest, sizeWithView S.modeParam (field.view p)⟩)
    (hread : M₀.read S.modeParamLayout.toLayout src = some p)
    (hfield : Described S.modeParamLayout field p)
    (hcontent : ∃ c, (field.view p).content M₀ = some c) :
  ∃ M', (nciModeParamCopyView S field dest src).Returns M
      (sizeWithView S.modeParam (field.view p)) M'
    ∧ S.modeParamLayout.Copied M₀ M M' src dest (sizeWithView S.modeParam (field.view p))
  := by
  have hbehind : (field.view p).bytes.isSome = true →
      gAlign8 S.modeParam + (field.view p).size ≤ sizeWithView S.modeParam (field.view p) := by
    intro hsome
    rw [sizeWithView_some hfield.proper hsome]
    exact Nat.add_le_add_left (le_gAlign8 _) _
  obtain ⟨M₁, M₂, hfields, hview, hcopied⟩ := copied_view hroom (sizeWithView_le S.modeParam _)
    hread hfield hcontent hbehind
  refine ⟨M₂, ?_, hcopied⟩
  rw [nciModeParamCopyView]
  apply (returns_load (hroom.extends_base.read hread)).bind
  apply hfields.bind
  by_cases hsome : (field.view p).bytes.isSome = true
  · rw [if_pos hsome] at hview ⊢
    rw [sizeWithView_some hfield.proper hsome]
    exact hview.bind (returns_pure _ _)
  · rw [if_neg hsome] at hview ⊢
    obtain rfl : M₁ = M₂ := by
      injection hview with hview
      injection hview
    rw [sizeWithView_none hfield.proper (Option.not_isSome_iff_eq_none.mp hsome)]
    exact returns_pure _ _

/-- The parameters are copied to where there is room for them, and the room that they take is the
one that has been computed. -/
theorem returns_nciModeParamCopyImpl {mode : NciMode} {p : NciModeParam}
    (hparse : (nciParseModeParam mode base n).value mem = some p)
    (hread : M₀.read S.modeParamLayout.toLayout src = some p)
    (hcontent : ∀ v ∈ p.views, ∃ c, v.content M₀ = some c)
    (hroom : Room M₀ M ⟨dest, S.modeParamSize p mode⟩) :
  ∃ M', (nciModeParamCopyImpl S dest src mode).Returns M (S.modeParamSize p mode) M'
    ∧ S.modeParamLayout.Copied M₀ M M' src dest (S.modeParamSize p mode)
    ∧ 0 < S.modeParamSize p mode
  := by
  cases modeParamCopied (S := S) hparse with
  | fields hviews hsize himpl =>
      rw [hsize] at hroom ⊢
      obtain ⟨hreturns, hcopied⟩ := copied_fields hroom (Nat.le_refl S.modeParam) hread hviews
      refine ⟨_, ?_, hcopied, S.modeParam_pos⟩
      rw [himpl]
      exact hreturns.bind (returns_pure _ _)
  | view field hfield hsize himpl =>
      have hview : ∃ c, (field.view p).content M₀ = some c := by
        have hviews : p.views = [field.view p] := hfield.views
        apply hcontent
        rw [hviews]
        exact List.mem_singleton_self _
      rw [hsize] at hroom ⊢
      rw [himpl]
      obtain ⟨M', hreturns, hcopied⟩ := returns_nciModeParamCopyView hroom hread hfield hview
      exact ⟨M', hreturns, hcopied, S.modeParam_pos.trans_le (sizeWithView_le S.modeParam _)⟩

/-! ### Parameters of an activation -/

theorem parsed_isoDepPollA {p : NciActivationParam}
    (h : (nciParseIsoDepPollAParam base n).value mem = some p) :
  Described S.activationParamLayout t1Field p
  := by
  rw [nciParseIsoDepPollAParam, value_bind] at h
  obtain ⟨-, h⟩ := value_guard h
  rw [value_bind] at h
  obtain ⟨-, h⟩ := value_guard h
  simp only [value_bind, value_pure] at h
  obtain rfl := Option.some.inj h
  refine ⟨rfl, ?_, fun _ => rfl, fun _ => rfl⟩
  show Option.isSome (if 0 < _ then _ else _) = (_ != 0)
  split
  · rename_i hpos
    exact (bne_iff_ne.mpr (Nat.pos_iff_ne_zero.mp hpos)).symm
  · rename_i hpos
    exact (bne_eq_false_iff_eq.mpr (Nat.eq_zero_of_not_pos hpos)).symm

theorem parsed_isoDepListenA {p : NciActivationParam}
    (h : (nciParseIsoDepListenAParam base n).value mem = some p) :
  p.views = []
  := by
  rw [nciParseIsoDepListenAParam] at h
  obtain ⟨-, h⟩ := value_guard h
  simp only [value_bind, value_pure] at h
  obtain rfl := Option.some.inj h
  rfl

/-- A view that is there if there are bytes for it. -/
theorem proper_ite {c : Prop} [Decidable c] {i k : Nat} (h : c → k ≠ 0) :
  (if c then (⟨some i, k⟩ : GUtilData) else GUtilData.zero).bytes.isSome
    = ((if c then (⟨some i, k⟩ : GUtilData) else GUtilData.zero).size != 0)
  := by
  split
  · rename_i hc
    exact (bne_iff_ne.mpr (h hc)).symm
  · rfl

theorem parsed_isoDepPollB {p : NciActivationParam}
    (h : (nciParseIsoDepPollBParam base n).value mem = some p) :
  Described S.activationParamLayout hlrField p
  := by
  rw [nciParseIsoDepPollBParam, value_bind] at h
  obtain ⟨-, h⟩ := value_guard h
  simp only [value_bind, value_pure] at h
  obtain rfl := Option.some.inj h
  exact ⟨rfl, proper_ite fun _ => by omega, fun _ => rfl, fun _ => rfl⟩

theorem parsed_isoDepListenB {p : NciActivationParam}
    (h : (nciParseIsoDepListenBParam base n).value mem = some p) :
  Described S.activationParamLayout hlcField p
  := by
  rw [nciParseIsoDepListenBParam, value_bind] at h
  obtain ⟨-, h⟩ := value_guard h
  simp only [value_bind, value_pure] at h
  obtain rfl := Option.some.inj h
  exact ⟨rfl, proper_ite fun _ => by omega, fun _ => rfl, fun _ => rfl⟩

theorem parsed_nfcDepPoll {p : NciActivationParam}
    (h : (nciParseNfcDepPollParam base n).value mem = some p) :
  Described S.activationParamLayout nfcDepPollGField p
  := by
  rw [nciParseNfcDepPollParam, value_bind] at h
  obtain ⟨-, h⟩ := value_guard h
  simp only [value_bind, value_pure] at h
  obtain rfl := Option.some.inj h
  exact ⟨rfl, proper_ite fun _ => by omega, fun _ => rfl, fun _ => rfl⟩

theorem parsed_nfcDepListen {p : NciActivationParam}
    (h : (nciParseNfcDepListenParam base n).value mem = some p) :
  Described S.activationParamLayout nfcDepListenGField p
  := by
  rw [nciParseNfcDepListenParam, value_bind] at h
  obtain ⟨-, h⟩ := value_guard h
  simp only [value_bind, value_pure] at h
  obtain rfl := Option.some.inj h
  exact ⟨rfl, proper_ite fun _ => by omega, fun _ => rfl, fun _ => rfl⟩

/-- What is copied of the parameters: the block is large enough, and what their view refers to is
copied if there is anything. -/
inductive ActivationParamCopied (S : CSizes) (malloc : Nat → Nat) (intf : NciRfInterface)
    (mode : NciMode) (p : NciActivationParam) : Prop
  | fields : p.views = [] →
      (∀ i, nciUtilCopyActivationParam S malloc (some i) intf mode = do
        let copy ← gutilMemdup malloc i S.activationParam
        pure (some copy)) →
      ActivationParamCopied S malloc intf mode p
  | view (field : ViewField NciActivationParam) (size : GUtilData → Nat)
      (wanted : GUtilData → Bool) : Described S.activationParamLayout field p →
      S.activationParam ≤ size (field.view p) →
      ((field.view p).bytes.isSome = true →
        gAlign8 S.activationParam + (field.view p).size ≤ size (field.view p)) →
      wanted (field.view p) = (field.view p).bytes.isSome →
      (∀ i, nciUtilCopyActivationParam S malloc (some i) intf mode
        = nciActivationParamCopyView S malloc field size wanted i) →
      ActivationParamCopied S malloc intf mode p

theorem gAlign8_of_dvd {n : Nat} (h : 8 ∣ n) :
  gAlign8 n = n
  := by
  obtain ⟨k, rfl⟩ := h
  rw [gAlign8]
  omega

/-- The room for a view, computed in the first way. -/
theorem behind_sizeWithView {size : Nat} {v : GUtilData} (h : v.bytes.isSome = (v.size != 0)) :
  v.bytes.isSome = true → gAlign8 size + v.size ≤ sizeWithView size v
  := by
  intro hsome
  rw [sizeWithView_some h hsome]
  exact Nat.add_le_add_left (le_gAlign8 _) _

/-- All that is parsed is copied. -/
theorem activationParamCopied (h8 : 8 ∣ S.activationParam) (malloc : Nat → Nat)
    {intf : NciRfInterface} {mode : NciMode} {p : NciActivationParam}
    (h : (nciParseActivationParam intf mode base n).value mem = some p) :
  ActivationParamCopied S malloc intf mode p
  := by
  have hviewed : ∀ {field : ViewField NciActivationParam} (wanted : GUtilData → Bool),
      Described S.activationParamLayout field p →
      wanted (field.view p) = (field.view p).bytes.isSome →
      (∀ i, nciUtilCopyActivationParam S malloc (some i) intf mode
        = nciActivationParamCopyView S malloc field (sizeWithView S.activationParam) wanted i) →
      ActivationParamCopied S malloc intf mode p :=
    fun _ hfield hwanted heq =>
      .view _ _ _ hfield (sizeWithView_le _ _) (behind_sizeWithView hfield.proper) hwanted heq
  -- the room for general bytes is right because the size of the structure is aligned
  have hgeneral : ∀ {field : ViewField NciActivationParam},
      Described S.activationParamLayout field p →
      (∀ i, nciUtilCopyActivationParam S malloc (some i) intf mode
        = nciActivationParamCopyView S malloc field
          (fun view => S.activationParam + gAlign8 view.size) (fun view => view.bytes.isSome) i) →
      ActivationParamCopied S malloc intf mode p := by
    intro field hfield heq
    refine .view _ _ _ hfield (Nat.le_add_right _ _) ?_ rfl heq
    intro _
    rw [gAlign8_of_dvd h8]
    exact Nat.add_le_add_left (le_gAlign8 _) _
  cases intf with
  | isoDep =>
      cases mode with
      | passivePollA =>
          exact hviewed (fun view => view.bytes.isSome) (parsed_isoDepPollA h) rfl fun _ => rfl
      | activePollA =>
          exact hviewed (fun view => view.bytes.isSome) (parsed_isoDepPollA h) rfl fun _ => rfl
      | passiveListenA => exact .fields (parsed_isoDepListenA h) fun _ => rfl
      | activeListenA => exact .fields (parsed_isoDepListenA h) fun _ => rfl
      | passivePollB =>
          have hfield := parsed_isoDepPollB (S := S) (n := n) h
          exact hviewed (fun view => view.bytes.isSome) hfield rfl fun _ => rfl
      | passiveListenB =>
          have hfield := parsed_isoDepListenB (S := S) h
          exact hviewed (fun view => view.size != 0) hfield hfield.proper.symm fun _ => rfl
      | _ => cases h
  | nfcDep =>
      cases mode with
      | activePollA => exact hgeneral (parsed_nfcDepPoll h) fun _ => rfl
      | activePollF => exact hgeneral (parsed_nfcDepPoll h) fun _ => rfl
      | passivePollA => exact hgeneral (parsed_nfcDepPoll h) fun _ => rfl
      | passivePollF => exact hgeneral (parsed_nfcDepPoll h) fun _ => rfl
      | activeListenA => exact hgeneral (parsed_nfcDepListen h) fun _ => rfl
      | activeListenF => exact hgeneral (parsed_nfcDepListen h) fun _ => rfl
      | passiveListenA => exact hgeneral (parsed_nfcDepListen h) fun _ => rfl
      | passiveListenF => exact hgeneral (parsed_nfcDepListen h) fun _ => rfl
      | _ => cases h
  | _ => cases h

theorem returns_nciActivationParamCopyView {malloc : Nat → Nat}
    {field : ViewField NciActivationParam} {size : GUtilData → Nat} {wanted : GUtilData → Bool}
    {p : NciActivationParam}
    (hfresh : M.Fresh ⟨malloc (size (field.view p)), size (field.view p)⟩)
    (hread : M.read S.activationParamLayout.toLayout src = some p)
    (hfield : Described S.activationParamLayout field p)
    (hcontent : ∃ c, (field.view p).content M = some c)
    (hsize : S.activationParam ≤ size (field.view p))
    (hbehind : (field.view p).bytes.isSome = true →
      gAlign8 S.activationParam + (field.view p).size ≤ size (field.view p))
    (hwanted : wanted (field.view p) = (field.view p).bytes.isSome) :
  ∃ M', (nciActivationParamCopyView S malloc field size wanted src).Returns M
      (some (malloc (size (field.view p)))) M'
    ∧ S.activationParamLayout.Copied M
      (M.fill ⟨malloc (size (field.view p)), size (field.view p)⟩ (.byte 0)) M' src
      (malloc (size (field.view p))) (size (field.view p))
  := by
  have hroom : Room M (M.fill ⟨malloc (size (field.view p)), size (field.view p)⟩ (.byte 0))
      ⟨malloc (size (field.view p)), size (field.view p)⟩ :=
    ⟨extends_fill hfresh _, hfresh, inUse_fill _ _ _⟩
  obtain ⟨M₁, M₂, hfields, hview, hcopied⟩ := copied_view hroom hsize hread hfield hcontent hbehind
  refine ⟨M₂, ?_, hcopied⟩
  rw [nciActivationParamCopyView]
  apply (returns_load hread).bind
  apply (returns_alloc _ _ _).bind
  apply hfields.bind
  rw [hwanted]
  split
  · rename_i hsome
    rw [if_pos hsome] at hview
    exact hview.bind (returns_pure _ _)
  · rename_i hnone
    rw [if_neg hnone] at hview
    obtain rfl : M₁ = M₂ := by
      injection hview with hview
      injection hview
    exact returns_pure _ _

end

/-! ### Deep copies -/

/-- The structure at `copy` is a deep copy of the one at `src`. It lies with everything that belongs
to it in the block of `size` bytes at its beginning, where nothing has been before, and nothing else
has changed. -/
structure ViewLayout.DeepCopy {α : Type} (T : ViewLayout α) (M M' : CMemory)
    (src copy size : Nat) : Prop where
  same : T.deep M' copy = T.deep M src
  isSome : (T.deep M src).isSome = true
  block : SameBut ⟨copy, size⟩ M M'
  fresh : M.Fresh ⟨copy, size⟩
  inside : ∀ r ∈ T.regions M' copy, r.Inside ⟨copy, size⟩
  apart : (T.regions M' copy).Pairwise Region.Apart

/-- What is copied into a new block is a deep copy. -/
theorem deepCopy_of_copied {α : Type} {T : ViewLayout α} {M M' : CMemory} {src copy size : Nat}
    (h : T.Copied M (M.fill ⟨copy, size⟩ (.byte 0)) M' src copy size) :
  T.DeepCopy M M' src copy size
  := by
  refine ⟨h.deep, h.isSome, ?_, h.room.fresh, ?_, h.packed.apart⟩
  · exact (sameBut_fill M ⟨copy, size⟩ (.byte 0)).trans h.same
  · intro r hr
    exact h.packed.inside hr

/-- The parameters that have been parsed within their bounds have deep copies, both those of a mode
and those of an activation, if the size of the latter is a multiple of eight. -/
theorem parametersCopied (S : CSizes) (malloc : Nat → Nat) (M : CMemory)
    (hmalloc : ∀ size, M.Fresh ⟨malloc size, size⟩) (mem : Nat → UInt8) (base n : Nat)
    (hbytes : InMemory M mem base n) (src : Nat) (mode : NciMode) :
  (∀ p : NciModeParam, (nciParseModeParam mode base n).value mem = some p →
      (∀ v ∈ p.views, v.Within base n) →
      M.read S.modeParamLayout.toLayout src = some p →
      ∃ size M', (nciUtilCopyModeParam S malloc (some src) mode).Returns M (some (malloc size)) M'
        ∧ S.modeParamLayout.DeepCopy M M' src (malloc size) size)
    ∧ (8 ∣ S.activationParam → ∀ (intf : NciRfInterface) (p : NciActivationParam),
      (nciParseActivationParam intf mode base n).value mem = some p →
      (∀ v ∈ p.views, v.Within base n) →
      M.read S.activationParamLayout.toLayout src = some p →
      ∃ size M', (nciUtilCopyActivationParam S malloc (some src) intf mode).Returns M
          (some (malloc size)) M'
        ∧ S.activationParamLayout.DeepCopy M M' src (malloc size) size)
  := by
  have hroom : ∀ size, Room M (M.fill ⟨malloc size, size⟩ (.byte 0)) ⟨malloc size, size⟩ :=
    fun size => ⟨extends_fill (hmalloc size) _, hmalloc size, inUse_fill _ _ _⟩
  constructor
  · intro p hparse hwithin hread
    obtain ⟨M', himpl, hcopied, hpos⟩ := returns_nciModeParamCopyImpl hparse hread
      (fun v hv => content_of_within hbytes (hwithin v hv)) (hroom (S.modeParamSize p mode))
    refine ⟨S.modeParamSize p mode, M', ?_, deepCopy_of_copied hcopied⟩
    have hcopy : (do
        if S.modeParamSize p mode ≠ 0 then do
          let copy ← gMalloc0 malloc (S.modeParamSize p mode)
          let _ ← nciModeParamCopyImpl S copy src mode
          pure (some copy)
        else pure none : CProgram (Option Nat)).Returns M
          (some (malloc (S.modeParamSize p mode))) M'
        := by
      rw [if_pos (Nat.pos_iff_ne_zero.mp hpos)]
      apply (returns_alloc _ _ _).bind
      exact himpl.bind (returns_pure _ _)
    rw [nciUtilCopyModeParam]
    refine Returns.bind ((returns_load hread).bind (returns_pure _ _)) ?_
    cases mode
    all_goals exact hcopy
  · intro h8 intf p hparse hwithin hread
    cases activationParamCopied h8 malloc hparse with
    | fields hviews heq =>
        obtain ⟨hreturns, hcopied⟩ := copied_fields (hroom S.activationParam) (Nat.le_refl _) hread
          hviews
        refine ⟨S.activationParam, _, ?_, deepCopy_of_copied hcopied⟩
        rw [heq]
        refine Returns.bind ?_ (returns_pure _ (some (malloc S.activationParam)))
        apply (returns_alloc _ _ _).bind
        exact hreturns.bind (returns_pure _ _)
    | view field size wanted hfield hsize hbehind hwanted heq =>
        have hview : ∃ c, (field.view p).content M = some c := by
          have hviews : p.views = [field.view p] := hfield.views
          apply content_of_within hbytes
          apply hwithin
          rw [hviews]
          exact List.mem_singleton_self _
        obtain ⟨M', hreturns, hcopied⟩ := returns_nciActivationParamCopyView (hmalloc _) hread
          hfield hview hsize hbehind hwanted
        refine ⟨size (field.view p), M', ?_, deepCopy_of_copied hcopied⟩
        rw [heq]
        exact hreturns

/-- A memory with `n` bytes at its beginning, and with a structure at address 100. -/
def smallMemory {α : Type} (mem : Nat → UInt8) (n : Nat) (T : Layout CValue α) (a : α) : CMemory :=
  Memory.write (fun i => if i < n then some ⟨.byte (mem i), 0⟩ else none) T 100 a

theorem inMemory_smallMemory {α : Type} (mem : Nat → UInt8) {n : Nat} (hn : n ≤ 100)
    (T : Layout CValue α) (a : α) :
  InMemory (smallMemory mem n T a) mem 0 n
  := by
  intro i _ hi
  rw [smallMemory, Memory.write, if_neg (by omega), if_pos (by omega)]

theorem fresh_smallMemory {α : Type} (mem : Nat → UInt8) {n : Nat} (hn : n ≤ 100)
    {T : Layout CValue α} (hT : T.size ≤ 100) (a : α) (size : Nat) :
  (smallMemory mem n T a).Fresh ⟨1000, size⟩
  := by
  rintro i ⟨hi, -⟩
  dsimp only at hi
  rw [smallMemory, Memory.write, if_neg (by omega), if_neg (by omega)]

/-- Sizes of structures. -/
def smallSizes : CSizes where
  discoveryNtf := 32
  modeParam := 24
  activationParam := 40
  discoveryNtf_pos := by decide
  modeParam_pos := by decide
  activationParam_pos := by decide

/-- The parameters of NFC-B poll mode, and those of an activation in NFC-DEP poll mode with two
general bytes. -/
theorem parametersCopied_poll :
  (∃ size M', (nciUtilCopyModeParam smallSizes (fun _ => 1000) (some 100) .passivePollB).Returns
      (smallMemory (memory [11, 1, 2, 3, 4, 5, 6, 7, 8, 0, 0x81, 0]) 12
        smallSizes.modeParamLayout.toLayout
        (.pollB { nfcid0 := [1, 2, 3, 4], fsc := 256, appData := [5, 6, 7, 8],
                  protInfo := ⟨some 9, 3⟩ }))
      (some 1000) M'
    ∧ smallSizes.modeParamLayout.DeepCopy
      (smallMemory (memory [11, 1, 2, 3, 4, 5, 6, 7, 8, 0, 0x81, 0]) 12
        smallSizes.modeParamLayout.toLayout
        (.pollB { nfcid0 := [1, 2, 3, 4], fsc := 256, appData := [5, 6, 7, 8],
                  protInfo := ⟨some 9, 3⟩ }))
      M' 100 1000 size)
    ∧ ∃ size M',
      (nciUtilCopyActivationParam smallSizes (fun _ => 1000) (some 100)
        .nfcDep .passivePollA).Returns
        (smallMemory (memory [17, 1, 2, 3, 4, 5, 6, 7, 8, 9, 10, 0, 0, 0, 7, 0x32, 0x46, 0x66]) 18
          smallSizes.activationParamLayout.toLayout
          (.nfcDepPoll { nfcid3 := [1, 2, 3, 4, 5, 6, 7, 8, 9, 10], did := 0, bs := 0, br := 0,
                         timeout := 7, pp := 0x32, g := ⟨some 16, 2⟩ }))
        (some 1000) M'
      ∧ smallSizes.activationParamLayout.DeepCopy
        (smallMemory (memory [17, 1, 2, 3, 4, 5, 6, 7, 8, 9, 10, 0, 0, 0, 7, 0x32, 0x46, 0x66]) 18
          smallSizes.activationParamLayout.toLayout
          (.nfcDepPoll { nfcid3 := [1, 2, 3, 4, 5, 6, 7, 8, 9, 10], did := 0, bs := 0, br := 0,
                         timeout := 7, pp := 0x32, g := ⟨some 16, 2⟩ }))
        M' 100 1000 size
  := by
  constructor
  · apply (parametersCopied smallSizes (fun _ => 1000) _
      (fresh_smallMemory _ (by decide) (by decide) _) _ 0 12
      (inMemory_smallMemory _ (by decide) _ _) 100 .passivePollB).1
    · rfl
    · decide
    · exact read_write _ _ _
  · apply (parametersCopied smallSizes (fun _ => 1000) _
      (fresh_smallMemory _ (by decide) (by decide) _) _ 0 18
      (inMemory_smallMemory _ (by decide) _ _) 100 .passivePollA).2 (by decide)
    · rfl
    · decide
    · exact read_write _ _ _

end Nci
