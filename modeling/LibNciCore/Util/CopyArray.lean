import Mathlib.Algebra.GroupWithZero.Nat
import LibNciCore.Util.CopyParam

/-!
# Copies of arrays of notifications

The structures of an array are copied one after another to the beginning of a block, and what they
refer to is copied behind them. The first pass, which computes the size of the block, and the second
one, which copies, agree on how much room everything takes.
-/

namespace Nci

open Memory Program Reads

/-! ### Everything that belongs to a notification -/

/-- The view of the parameters of a notification. -/
def NciDiscoveryNtfObject.view (ntf : NciDiscoveryNtfObject) : GUtilData :=
  ⟨ntf.paramBytes, ntf.paramLen⟩

/-- The notification, without where its parameters are. -/
def NciDiscoveryNtfObject.forget (ntf : NciDiscoveryNtfObject) : NciDiscoveryNtfObject :=
  { ntf with paramBytes := none, param := none }

namespace CSizes

variable (S : CSizes)

/-- The parameters of a notification, if it has any. -/
def deepParam (M : CMemory) (param : Option Nat) :
    Option (Option (NciModeParam × List (Option (List UInt8)))) :=
  match param with
  | some j => (S.modeParamLayout.deep M j).map some
  | none => some none

/-- The notification at an address, with everything that belongs to it. -/
def deepDiscoveryNtf (M : CMemory) (i : Nat) :
    Option (NciDiscoveryNtfObject × Option (List UInt8)
      × Option (NciModeParam × List (Option (List UInt8)))) :=
  (M.read S.discoveryNtfLayout i).bind fun ntf =>
    (ntf.view.content M).bind fun bytes =>
      (S.deepParam M ntf.param).map fun param => (ntf.forget, bytes, param)

/-- The regions that the parameters occupy. -/
def paramRegions (M : CMemory) (param : Option Nat) : List Region :=
  match param with
  | some j => S.modeParamLayout.regions M j
  | none => []

/-- The regions that what the notification at an address refers to occupies. -/
def nestedRegions (M : CMemory) (i : Nat) : List Region :=
  match M.read S.discoveryNtfLayout i with
  | some ntf => ntf.view.region.toList ++ S.paramRegions M ntf.param
  | none => []

end CSizes

section

variable {S : CSizes} {M M' M₀ : CMemory}

theorem content_congr {v : GUtilData} (h : ∀ r ∈ v.region, M.Agrees M' r) :
  v.content M' = v.content M
  := by
  rw [GUtilData.content, GUtilData.content]
  split
  · rename_i i hi
    have hregion : v.region = some ⟨i, v.size⟩ := by
      rw [GUtilData.region, hi]
      rfl
    have hagrees : M.Agrees M' ⟨i, v.size * byteLayout.size⟩ := by
      rw [show v.size * byteLayout.size = v.size from Nat.mul_one v.size]
      exact h _ hregion
    rw [hagrees.readMany]
  · rfl

theorem mapM_option_congr {α β : Type} {f g : α → Option β} {l : List α}
    (h : ∀ a ∈ l, f a = g a) :
  l.mapM f = l.mapM g
  := by
  induction l with
  | nil => rfl
  | cons a l ih =>
      rw [List.mapM_cons, List.mapM_cons, h a List.mem_cons_self,
        ih fun b hb => h b (List.mem_cons_of_mem a hb)]

/-- A structure depends on its regions. -/
theorem deep_congr {α : Type} {T : ViewLayout α} {i : Nat}
    (h : ∀ r ∈ T.regions M i, M.Agrees M' r) :
  T.deep M' i = T.deep M i ∧ T.regions M' i = T.regions M i
  := by
  have hread : M'.read T.toLayout i = M.read T.toLayout i :=
    (h ⟨i, T.size⟩ List.mem_cons_self).read
  rw [ViewLayout.deep, ViewLayout.deep, ViewLayout.regions, ViewLayout.regions, hread]
  refine ⟨?_, rfl⟩
  cases ha : M.read T.toLayout i with
  | none => rfl
  | some a =>
      have hviews : ∀ v ∈ T.views a, v.content M' = v.content M := by
        intro v hv
        apply content_congr
        intro r hr
        apply h
        rw [ViewLayout.regions, ha]
        exact List.mem_cons_of_mem _ (List.mem_filterMap.mpr ⟨v, hv, hr⟩)
      rw [Option.bind_some, Option.bind_some]
      rw [mapM_option_congr hviews]

/-- A notification depends on its own region and on those of what it refers to. -/
theorem deepDiscoveryNtf_congr {i : Nat} (hself : M.Agrees M' ⟨i, S.discoveryNtf⟩)
    (h : ∀ r ∈ S.nestedRegions M i, M.Agrees M' r) :
  S.deepDiscoveryNtf M' i = S.deepDiscoveryNtf M i
    ∧ S.nestedRegions M' i = S.nestedRegions M i
  := by
  have hread : M'.read S.discoveryNtfLayout i = M.read S.discoveryNtfLayout i := hself.read
  rw [CSizes.deepDiscoveryNtf, CSizes.deepDiscoveryNtf, CSizes.nestedRegions,
    CSizes.nestedRegions, hread]
  cases hntf : M.read S.discoveryNtfLayout i with
  | none => exact ⟨rfl, rfl⟩
  | some ntf =>
      rw [CSizes.nestedRegions, hntf] at h
      have hcontent : ntf.view.content M' = ntf.view.content M := by
        apply content_congr
        intro r hr
        exact h r (List.mem_append_left _ (Option.mem_toList.mpr hr))
      have hparam : S.deepParam M' ntf.param = S.deepParam M ntf.param
          ∧ S.paramRegions M' ntf.param = S.paramRegions M ntf.param := by
        cases hj : ntf.param with
        | none => exact ⟨rfl, rfl⟩
        | some j =>
            dsimp only at h
            rw [hj] at h
            obtain ⟨hdeep, hregions⟩ := deep_congr fun r hr => h r (List.mem_append_right _ hr)
            exact ⟨congrArg (Option.map some) hdeep, hregions⟩
      dsimp only
      rw [Option.bind_some, Option.bind_some, hcontent, hparam.1, hparam.2]
      exact ⟨rfl, rfl⟩

end

/-! ### Notifications that can be copied -/

/-- The parameters of a notification are in memory as they have been parsed. -/
structure ReadyParam (S : CSizes) (M : CMemory) (mode : NciMode) (j : Nat) (p : NciModeParam) :
    Prop where
  read : M.read S.modeParamLayout.toLayout j = some p
  parsed : ∃ mem base n, (nciParseModeParam mode base n).value mem = some p
  content : ∀ v ∈ p.views, ∃ c, v.content M = some c

/-- A notification is in memory as it has been parsed. -/
structure ReadyNtf (S : CSizes) (M : CMemory) (i : Nat) (ntf : NciDiscoveryNtfObject) : Prop where
  read : M.read S.discoveryNtfLayout i = some ntf
  proper : ntf.paramBytes.isSome = (ntf.paramLen != 0)
  content : ∃ c, ntf.view.content M = some c
  paramLen : ntf.param.isSome = true → ntf.paramLen ≠ 0
  param : ∀ j ∈ ntf.param, ∃ p, ReadyParam S M ntf.mode j p

/-- How much room the parameters take. -/
def CSizes.paramSize (S : CSizes) (M : CMemory) (mode : NciMode) (param : Option Nat) : Nat :=
  match param.bind fun j => M.read S.modeParamLayout.toLayout j with
  | some p => gAlign8 (S.modeParamSize p mode)
  | none => 0

/-- How much room is taken by what a notification refers to. -/
def CSizes.nestedSize (S : CSizes) (M : CMemory) (i : Nat) : Nat :=
  match M.read S.discoveryNtfLayout i with
  | some ntf =>
      if ntf.paramLen ≠ 0 then gAlign8 ntf.paramLen + S.paramSize M ntf.mode ntf.param else 0
  | none => 0

section

variable {S : CSizes} {M M' M₀ : CMemory}

/-- The first pass finds out how much room is needed. -/
theorem returns_discoveryNtfSize {i : Nat} {ntf : NciDiscoveryNtfObject} (h : ReadyNtf S M i ntf) :
  (discoveryNtfSize S i).Returns M (S.nestedSize M i) M
  := by
  rw [discoveryNtfSize, CSizes.nestedSize, h.read]
  apply (returns_load h.read).bind
  dsimp only
  split
  · cases hparam : ntf.param with
    | none => exact returns_pure _ _
    | some j =>
        obtain ⟨p, hp⟩ := h.param j hparam
        rw [CSizes.paramSize, Option.bind_some, hp.read]
        refine Returns.bind ?_ (returns_pure _ _)
        exact (returns_load hp.read).bind (returns_pure _ _)
  · exact returns_pure _ _

theorem returns_discoveryNtfSizes {ntfs : List Nat} (h : ∀ i ∈ ntfs, ∃ ntf, ReadyNtf S M i ntf)
    (size : Nat) :
  (discoveryNtfSizes S ntfs size).Returns M (size + (ntfs.map (S.nestedSize M)).sum) M
  := by
  induction ntfs generalizing size with
  | nil => exact returns_pure _ _
  | cons i ntfs ih =>
      obtain ⟨ntf, hntf⟩ := h i List.mem_cons_self
      rw [discoveryNtfSizes, List.map_cons, List.sum_cons, ← Nat.add_assoc]
      apply (returns_discoveryNtfSize hntf).bind
      exact ih (fun j hj => h j (List.mem_cons_of_mem i hj)) _

/-! ### Copying a notification -/

theorem deepDiscoveryNtf_eq {i : Nat} {ntf : NciDiscoveryNtfObject} {c : Option (List UInt8)}
    {d : Option (NciModeParam × List (Option (List UInt8)))}
    (hread : M.read S.discoveryNtfLayout i = some ntf) (hcontent : ntf.view.content M = some c)
    (hparam : S.deepParam M ntf.param = some d) :
  S.deepDiscoveryNtf M i = some (ntf.forget, c, d)
  := by
  rw [CSizes.deepDiscoveryNtf, hread, Option.bind_some, hcontent, Option.bind_some, hparam]
  rfl

theorem nestedRegions_eq {i : Nat} {ntf : NciDiscoveryNtfObject}
    (hread : M.read S.discoveryNtfLayout i = some ntf) :
  S.nestedRegions M i = ntf.view.region.toList ++ S.paramRegions M ntf.param
  := by rw [CSizes.nestedRegions, hread]

/-- A notification has been copied to `dest`, and what it refers to to `ptr`. -/
structure NtfCopied (S : CSizes) (M₀ M M' : CMemory) (src dest ptr : Nat) : Prop where
  dest_room : Room M₀ M' ⟨dest, S.discoveryNtf⟩
  ptr_room : Room M₀ M' ⟨ptr, S.nestedSize M₀ src⟩
  same : ∀ i, i ∉ (⟨dest, S.discoveryNtf⟩ : Region) → i ∉ (⟨ptr, S.nestedSize M₀ src⟩ : Region) →
    M' i = M i
  deep : S.deepDiscoveryNtf M' dest = S.deepDiscoveryNtf M₀ src
  isSome : (S.deepDiscoveryNtf M₀ src).isSome = true
  packed : Region.Packed ptr (S.nestedRegions M' dest) (ptr + S.nestedSize M₀ src)

variable {src dest ptr : Nat} {ntf : NciDiscoveryNtfObject}

/-- The parameters are copied, and the copy of the notification at `dest` is made to refer to
them. -/
theorem returns_discoveryNtfCopyParam {copy : NciDiscoveryNtfObject} {size : Nat}
    {c : Option (List UInt8)} (hready : ReadyNtf S M₀ src ntf)
    (hdest : Room M₀ M ⟨dest, S.discoveryNtf⟩)
    (hptr : Room M₀ M ⟨ptr, size⟩) (hsize : size = S.paramSize M₀ ntf.mode ntf.param)
    (hle : dest + S.discoveryNtf ≤ ptr)
    (hread : M.read S.discoveryNtfLayout dest = some copy) (hparam : copy.param = ntf.param)
    (hcontent : copy.view.content M = some c)
    (hview : ∀ r ∈ copy.view.region,
      r.Apart ⟨dest, S.discoveryNtf⟩ ∧ r.Apart ⟨ptr, size⟩) :
  ∃ M' d, (discoveryNtfCopyParam S ntf dest ptr).Returns M (ptr + size) M'
    ∧ Room M₀ M' ⟨dest, S.discoveryNtf⟩ ∧ Room M₀ M' ⟨ptr, size⟩
    ∧ (∀ i, i ∉ (⟨dest, S.discoveryNtf⟩ : Region) → i ∉ (⟨ptr, size⟩ : Region) → M' i = M i)
    ∧ S.deepParam M₀ ntf.param = some d
    ∧ S.deepDiscoveryNtf M' dest = some (copy.forget, c, d)
    ∧ ∃ regions, S.nestedRegions M' dest = copy.view.region.toList ++ regions
      ∧ Region.Packed ptr regions (ptr + size)
  := by
  cases hj : ntf.param with
  | none =>
      have hzero : size = 0 := by
        rw [hsize, hj]
        rfl
      have hnone : copy.param = none := hparam.trans hj
      refine ⟨M, none, ?_, hdest, hptr, fun _ _ _ => rfl, rfl, ?_, [], ?_, ?_⟩
      · rw [discoveryNtfCopyParam, hj, hzero]
        exact returns_pure _ _
      · apply deepDiscoveryNtf_eq hread hcontent
        rw [hnone]
        rfl
      · rw [nestedRegions_eq hread, hnone]
        rfl
      · exact Nat.le_add_right ptr size
  | some j =>
      obtain ⟨p, hp⟩ := hready.param j hj
      obtain ⟨mem, base, n, hparse⟩ := hp.parsed
      have hsome : size = gAlign8 (S.modeParamSize p ntf.mode) := by
        rw [hsize, hj, CSizes.paramSize, Option.bind_some, hp.read]
      have hinside : Region.Inside ⟨ptr, S.modeParamSize p ntf.mode⟩ ⟨ptr, size⟩ := by
        refine ⟨Nat.le_refl ptr, ?_⟩
        rw [hsome]
        exact Nat.add_le_add_left (le_gAlign8 _) ptr
      have hroom : Room M₀ M ⟨ptr, S.modeParamSize p ntf.mode⟩ :=
        ⟨hptr.extends_base, hptr.fresh.inside hinside, hptr.inUse.inside hinside⟩
      obtain ⟨M₁, himpl, hcopied, hpos⟩ :=
        returns_nciModeParamCopyImpl hparse hp.read hp.content hroom
      have hsame₁ : SameBut ⟨ptr, size⟩ M M₁ := hcopied.same.mono hinside
      have hread₁ : M₁.read S.discoveryNtfLayout dest = some copy := by
        have hagrees : M.Agrees M₁ ⟨dest, S.discoveryNtf⟩ := by
          apply hsame₁.agrees
          apply Region.Apart.symm
          apply Region.apart_of_le
          exact hle
        rw [hagrees.read (T := S.discoveryNtfLayout), hread]
      obtain ⟨M₂, hstore, hroom₂, hsame₂, hread₂⟩ := returns_storeIn
        (hdest.other hcopied.room hcopied.same)
        (⟨Nat.le_refl dest, Nat.le_refl _⟩ : Region.Inside ⟨dest, S.discoveryNtfLayout.size⟩ _)
        { copy with param := some ptr }
      have hroom₂' : Room M₀ M₂ ⟨ptr, size⟩ :=
        ⟨hroom₂.extends_base, hptr.fresh,
          hsame₂.inUse hroom₂.inUse (hcopied.same.inUse hcopied.room.inUse hptr.inUse)⟩
      have hdeep : S.modeParamLayout.deep M₂ ptr = S.modeParamLayout.deep M₁ ptr
          ∧ S.modeParamLayout.regions M₂ ptr = S.modeParamLayout.regions M₁ ptr := by
        apply deep_congr
        intro r hr
        apply hsame₂.agrees
        apply Region.apart_of_le
        exact Nat.le_trans hle (hcopied.packed.inside hr).1
      have hcontent₂ : copy.view.content M₂ = some c := by
        rw [← hcontent]
        apply content_congr
        intro r hr i hi
        obtain ⟨hapart, hapart'⟩ := hview r hr
        rw [hsame₂ i (hapart i hi), hsame₁ i (hapart' i hi)]
      obtain ⟨d, hd⟩ := Option.isSome_iff_exists.mp hcopied.isSome
      refine ⟨M₂, some d, ?_, hroom₂, hroom₂', ?_, ?_, ?_, S.modeParamLayout.regions M₂ ptr, ?_, ?_⟩
      · rw [discoveryNtfCopyParam, hj]
        apply himpl.bind
        apply (returns_load hread₁).bind
        rw [if_pos (Nat.pos_iff_ne_zero.mp hpos), hsome]
        exact hstore.bind (returns_pure _ _)
      · intro i hi hi'
        rw [hsame₂ i hi, hsame₁ i hi']
      · rw [CSizes.deepParam, hd]
        rfl
      · apply deepDiscoveryNtf_eq (c := c) hread₂ hcontent₂
        show (S.modeParamLayout.deep M₂ ptr).map some = some (some d)
        rw [hdeep.1, hcopied.deep, hd]
        rfl
      · rw [nestedRegions_eq hread₂]
        rfl
      · rw [hdeep.2]
        exact hcopied.packed.mono (Nat.le_refl ptr) hinside.2

/-- A notification is copied. -/
theorem returns_discoveryNtfCopy (hready : ReadyNtf S M₀ src ntf)
    (hdest : Room M₀ M ⟨dest, S.discoveryNtf⟩) (hptr : Room M₀ M ⟨ptr, S.nestedSize M₀ src⟩)
    (hle : dest + S.discoveryNtf ≤ ptr) :
  ∃ M', (discoveryNtfCopy S src dest ptr).Returns M (ptr + S.nestedSize M₀ src) M'
    ∧ NtfCopied S M₀ M M' src dest ptr
  := by
  have hinside : Region.Inside ⟨dest, S.discoveryNtfLayout.size⟩ ⟨dest, S.discoveryNtf⟩ :=
    ⟨Nat.le_refl dest, Nat.le_refl _⟩
  obtain ⟨hfields, hroom₁, hsame₁, hread₁⟩ := returns_copyFields hdest hready.read hinside
  generalize M.copy dest src S.discoveryNtfLayout.size = M₁ at hfields hroom₁ hsame₁ hread₁
  have hsize : S.nestedSize M₀ src
      = if ntf.paramLen ≠ 0 then gAlign8 ntf.paramLen + S.paramSize M₀ ntf.mode ntf.param
        else 0 := by
    rw [CSizes.nestedSize, hready.read]
  obtain ⟨c, hcontent⟩ := hready.content
  by_cases hlen : ntf.paramLen = 0
  · rw [if_neg (not_not.mpr hlen)] at hsize
    have hproper := hready.proper
    rw [hlen] at hproper
    have hbytes : ntf.paramBytes = none :=
      Option.not_isSome_iff_eq_none.mp (by rw [hproper]; decide)
    have hparam : ntf.param = none :=
      Option.not_isSome_iff_eq_none.mp fun hsome => hready.paramLen hsome hlen
    have hcontents : ∀ M : CMemory, ntf.view.content M = some none := by
      intro M
      rw [GUtilData.content, NciDiscoveryNtfObject.view, hbytes]
    have hparams : ∀ M : CMemory, S.deepParam M ntf.param = some none := by
      intro M
      rw [hparam]
      rfl
    refine ⟨M₁, ?_, hroom₁, hptr.other hroom₁ hsame₁, fun i hi _ => hsame₁ i hi, ?_, ?_, ?_⟩
    · rw [hsize, discoveryNtfCopy]
      apply (returns_load (hdest.extends_base.read hready.read)).bind
      apply hfields.bind
      rw [if_neg (not_not.mpr hlen)]
      exact returns_pure _ _
    · rw [deepDiscoveryNtf_eq hread₁ (hcontents M₁) (hparams M₁),
        deepDiscoveryNtf_eq hready.read (hcontents M₀) (hparams M₀)]
    · rw [deepDiscoveryNtf_eq hready.read (hcontents M₀) (hparams M₀)]
      rfl
    · rw [nestedRegions_eq hread₁, hparam, NciDiscoveryNtfObject.view, hbytes]
      exact Nat.le_add_right ptr _
  · rw [if_pos hlen] at hsize
    have hproper := hready.proper
    rw [bne_iff_ne.mpr hlen] at hproper
    obtain ⟨i, hi⟩ := Option.isSome_iff_exists.mp hproper
    have hcontent₀ := hcontent
    rw [GUtilData.content, NciDiscoveryNtfObject.view, hi] at hcontent
    obtain ⟨bs, hbs, rfl⟩ := Option.map_eq_some_iff.mp hcontent
    have hapart : ∀ {k n : Nat}, ptr ≤ k → Region.Apart ⟨dest, S.discoveryNtf⟩ ⟨k, n⟩ := by
      intro k n hk
      apply Region.apart_of_le
      exact Nat.le_trans hle hk
    have hbytes : Region.Inside ⟨ptr, ntf.paramLen⟩ ⟨ptr, S.nestedSize M₀ src⟩ := by
      refine ⟨Nat.le_refl ptr, Nat.add_le_add_left ?_ ptr⟩
      rw [hsize]
      exact Nat.le_trans (le_gAlign8 _) (Nat.le_add_right _ _)
    have hbehind : Region.Inside
        ⟨ptr + gAlign8 ntf.paramLen, S.paramSize M₀ ntf.mode ntf.param⟩
        ⟨ptr, S.nestedSize M₀ src⟩ := by
      refine ⟨Nat.le_add_right ptr _, ?_⟩
      rw [hsize]
      exact Nat.le_of_eq (Nat.add_assoc _ _ _)
    obtain ⟨M₂, hstore, hroom₂, hsame₂, hread₂⟩ :=
      returns_storeIn hroom₁ hinside { ntf with paramBytes := some ptr }
    have hptr₂ := (hptr.other hroom₁ hsame₁).other hroom₂ hsame₂
    obtain ⟨M₃, hcopy, hptr₃, hsame₃, hbs₃⟩ := returns_copyBytes hptr₂ hbs hbytes
    have hread₃ : M₃.read S.discoveryNtfLayout dest
        = some { ntf with paramBytes := some ptr } := by
      have hagrees : M₂.Agrees M₃ ⟨dest, S.discoveryNtf⟩ :=
        hsame₃.agrees (hapart (Nat.le_refl ptr)).symm
      rw [hagrees.read (T := S.discoveryNtfLayout), hread₂]
    have hdest₃ : Room M₀ M₃ ⟨dest, S.discoveryNtf⟩ :=
      hroom₂.other hptr₃ (hsame₃.mono hbytes)
    have hptr₃' : Room M₀ M₃
        ⟨ptr + gAlign8 ntf.paramLen, S.paramSize M₀ ntf.mode ntf.param⟩ :=
      ⟨hptr₃.extends_base, hptr₃.fresh.inside hbehind, hptr₃.inUse.inside hbehind⟩
    obtain ⟨M₄, d, hparam, hdest₄, hptr₄, hsame₄, hd, hdeep, regions, hregions, hpacked⟩ :=
      returns_discoveryNtfCopyParam hready hdest₃ hptr₃' rfl
        (Nat.le_trans hle (Nat.le_add_right ptr _)) hread₃ rfl (content_of_readMany hbs₃) (by
          rintro r ⟨⟩
          refine ⟨(hapart (Nat.le_refl ptr)).symm, ?_⟩
          apply Region.apart_of_le
          exact Nat.add_le_add_left (le_gAlign8 _) ptr)
    have hsame : ∀ i, i ∉ (⟨dest, S.discoveryNtf⟩ : Region) →
        i ∉ (⟨ptr, S.nestedSize M₀ src⟩ : Region) → M₄ i = M i := by
      intro i hi hi'
      rw [hsame₄ i hi fun hmem => hi' (hbehind.mem hmem),
        hsame₃ i fun hmem => hi' (hbytes.mem hmem),
        hsame₂ i hi, hsame₁ i hi]
    have hinUse : M₄.InUse ⟨ptr, S.nestedSize M₀ src⟩ :=
      inUse_of_same hsame₄ hdest₄.inUse hptr₄.inUse hptr₃.inUse
    refine ⟨M₄, ?_, hdest₄, ⟨hdest₄.extends_base, hptr.fresh, hinUse⟩, hsame, ?_, ?_, ?_⟩
    · rw [discoveryNtfCopy]
      apply (returns_load (hdest.extends_base.read hready.read)).bind
      apply hfields.bind
      rw [if_pos hlen]
      apply (returns_load hread₁).bind
      apply hstore.bind
      rw [hi]
      apply hcopy.bind
      rw [hsize, ← Nat.add_assoc]
      exact hparam
    · rw [hdeep, deepDiscoveryNtf_eq hready.read hcontent₀ hd]
      rfl
    · rw [deepDiscoveryNtf_eq hready.read hcontent₀ hd]
      rfl
    · rw [hregions, hsize, ← Nat.add_assoc]
      refine ⟨Nat.le_refl ptr, ?_⟩
      exact hpacked.mono (Nat.add_le_add_left (le_gAlign8 _) ptr) (Nat.le_refl _)

/-! ### Copying an array -/

theorem inside_append (i n k : Nat) :
  Region.Inside ⟨i, n⟩ ⟨i, n + k⟩ ∧ Region.Inside ⟨i + n, k⟩ ⟨i, n + k⟩
  := by
  refine ⟨⟨Nat.le_refl i, ?_⟩, ⟨Nat.le_add_right i n, ?_⟩⟩
  · exact Nat.add_le_add_left (Nat.le_add_right n k) i
  · exact Nat.le_of_eq (Nat.add_assoc i n k)

/-- Another region of the block. -/
theorem NtfCopied.room (h : NtfCopied S M₀ M M' src dest ptr) {r : Region} (hr : Room M₀ M r) :
  Room M₀ M' r
  := ⟨h.dest_room.extends_base, hr.fresh,
      inUse_of_same h.same h.dest_room.inUse h.ptr_room.inUse hr.inUse⟩

/-- Notifications are copied one after another. What has been copied before is not changed any
more. -/
theorem returns_discoveryNtfsCopy {ntfs : List Nat}
    (hready : ∀ i ∈ ntfs, ∃ ntf, ReadyNtf S M₀ i ntf)
    (hdest : Room M₀ M ⟨dest, S.discoveryNtf * ntfs.length⟩)
    (hptr : Room M₀ M ⟨ptr, (ntfs.map (S.nestedSize M₀)).sum⟩)
    (hle : dest + S.discoveryNtf * ntfs.length ≤ ptr) :
  ∃ M', (discoveryNtfsCopy S ntfs dest ptr).Returns M () M'
    ∧ (∀ i, i ∉ (⟨dest, S.discoveryNtf * ntfs.length⟩ : Region) →
      i ∉ (⟨ptr, (ntfs.map (S.nestedSize M₀)).sum⟩ : Region) → M' i = M i)
    ∧ (∀ k (hk : k < ntfs.length),
      S.deepDiscoveryNtf M' (dest + S.discoveryNtf * k) = S.deepDiscoveryNtf M₀ ntfs[k]
        ∧ (S.deepDiscoveryNtf M₀ ntfs[k]).isSome = true)
    ∧ Region.Packed ptr
      ((List.range ntfs.length).flatMap fun k => S.nestedRegions M' (dest + S.discoveryNtf * k))
      (ptr + (ntfs.map (S.nestedSize M₀)).sum)
  := by
  induction ntfs generalizing M dest ptr with
  | nil =>
      refine ⟨M, returns_pure _ _, fun _ _ _ => rfl, ?_, Nat.le_refl ptr⟩
      intro k hk
      cases hk
  | cons src ntfs ih =>
      obtain ⟨ntf, hntf⟩ := hready src List.mem_cons_self
      have hmul : S.discoveryNtf * (src :: ntfs).length
          = S.discoveryNtf + S.discoveryNtf * ntfs.length := by
        rw [List.length_cons, Nat.mul_add, Nat.mul_one, Nat.add_comm]
      rw [hmul] at hdest hle
      rw [List.map_cons, List.sum_cons] at hptr
      generalize hsum : (ntfs.map (S.nestedSize M₀)).sum = sum at hptr ih
      have hdests : Region.Inside ⟨dest, S.discoveryNtf⟩
            ⟨dest, S.discoveryNtf + S.discoveryNtf * ntfs.length⟩
          ∧ Region.Inside ⟨dest + S.discoveryNtf, S.discoveryNtf * ntfs.length⟩
            ⟨dest, S.discoveryNtf + S.discoveryNtf * ntfs.length⟩ :=
        inside_append dest _ _
      have hptrs : Region.Inside ⟨ptr, S.nestedSize M₀ src⟩ ⟨ptr, S.nestedSize M₀ src + sum⟩
          ∧ Region.Inside ⟨ptr + S.nestedSize M₀ src, sum⟩ ⟨ptr, S.nestedSize M₀ src + sum⟩ :=
        inside_append ptr _ _
      obtain ⟨M₁, hcopy, hcopied⟩ := returns_discoveryNtfCopy hntf (hdest.inside hdests.1)
        (hptr.inside hptrs.1) (by omega)
      have hdest₁ := hcopied.room (hdest.inside hdests.2)
      have hptr₁ := hcopied.room (hptr.inside hptrs.2)
      obtain ⟨M₂, hloop, hsame₂, hdeep₂, hpacked₂⟩ := ih
        (fun i hi => hready i (List.mem_cons_of_mem src hi)) hdest₁ hptr₁ (by omega)
      have hkept : ∀ {r : Region}, r.Inside ⟨dest, S.discoveryNtf⟩
          ∨ r.Inside ⟨ptr, S.nestedSize M₀ src⟩ → M₁.Agrees M₂ r := by
        rintro r hr i hi
        apply hsame₂
        · rintro ⟨hlow, hhigh⟩
          dsimp only [Region.stop] at hlow hhigh
          rcases hr with hr | hr
          · have hlast := (hr.mem hi).2
            dsimp only [Region.stop] at hlast
            omega
          · have hfirst := (hr.mem hi).1
            dsimp only at hfirst
            omega
        · rintro ⟨hlow, hhigh⟩
          dsimp only at hlow
          rcases hr with hr | hr
          · have hlast := (hr.mem hi).2
            dsimp only [Region.stop] at hlast
            omega
          · have hlast := (hr.mem hi).2
            dsimp only [Region.stop] at hlast
            omega
      obtain ⟨hdeep₁, hregions₁⟩ := deepDiscoveryNtf_congr (S := S)
        (hkept (Or.inl ⟨Nat.le_refl dest, Nat.le_refl _⟩))
        fun r hr => hkept (Or.inr (hcopied.packed.inside hr))
      have hnext : ∀ k, dest + S.discoveryNtf * (k + 1)
          = dest + S.discoveryNtf + S.discoveryNtf * k := by
        intro k
        rw [Nat.mul_add, Nat.mul_one, Nat.add_assoc, Nat.add_comm (S.discoveryNtf * k)]
      refine ⟨M₂, hcopy.bind hloop, ?_, ?_, ?_⟩
      · intro i hi hi'
        rw [hmul] at hi
        rw [List.map_cons, List.sum_cons, hsum] at hi'
        rw [hsame₂ i (fun hmem => hi (hdests.2.mem hmem)) (fun hmem => hi' (hptrs.2.mem hmem)),
          hcopied.same i (fun hmem => hi (hdests.1.mem hmem)) fun hmem => hi' (hptrs.1.mem hmem)]
      · intro k hk
        cases k with
        | zero =>
            rw [Nat.mul_zero, Nat.add_zero, List.getElem_cons_zero, hdeep₁]
            exact ⟨hcopied.deep, hcopied.isSome⟩
        | succ k =>
            rw [hnext, List.getElem_cons_succ]
            exact hdeep₂ k (Nat.lt_of_succ_lt_succ hk)
      · rw [List.length_cons, List.range_succ_eq_map, List.flatMap_cons, List.flatMap_map,
          Nat.mul_zero, Nat.add_zero, hregions₁, List.map_cons, List.sum_cons, hsum,
          ← Nat.add_assoc]
        simp only [Nat.succ_eq_add_one, hnext]
        exact hcopied.packed.append hpacked₂

end

/-! ### Copies of what has been parsed -/

/-- The notification at an address has been parsed from bytes in memory, and its parameters, if they
have been parsed, refer to these bytes only. -/
def ParsedNtf (S : CSizes) (M : CMemory) (src : Nat) : Prop :=
  ∃ (mem : Nat → UInt8) (pkt len : Nat) (hasParam : Bool) (ntf : NciDiscoveryNtf)
    (param : Option Nat),
    (nciParseDiscoverNtf hasParam pkt len).value mem = some ntf
      ∧ (∀ p ∈ ntf.param, ∀ v ∈ p.views, v.Within pkt len)
      ∧ InMemory M mem pkt len
      ∧ M.read S.discoveryNtfLayout src = some (ntf.object param)
      ∧ param.isSome = ntf.param.isSome
      ∧ ∀ j ∈ param, M.read S.modeParamLayout.toLayout j = ntf.param

/-- There are parameters if their length is not zero. -/
theorem parsed_paramBytes {mem : Nat → UInt8} {pkt len : Nat} {hasParam : Bool}
    {ntf : NciDiscoveryNtf} (h : (nciParseDiscoverNtf hasParam pkt len).value mem = some ntf) :
  ntf.paramBytes.isSome = (ntf.paramLen != 0)
    ∧ (ntf.param.isSome = true → ntf.paramLen ≠ 0)
  := by
  rw [nciParseDiscoverNtf] at h
  obtain ⟨-, h⟩ := value_guard h
  rw [value_bind, value_byte] at h
  obtain ⟨-, h⟩ := value_guard h
  simp only [value_bind, value_pure] at h
  obtain rfl := Option.some.inj h
  dsimp only
  constructor
  · split
    · rename_i hn
      exact (bne_iff_ne.mpr hn).symm
    · rename_i hn
      exact (bne_eq_false_iff_eq.mpr (not_not.mp hn)).symm
  · rw [value_ite]
    split
    · rename_i hn
      intro _
      exact hn.1
    · intro hsome
      cases hsome

/-- What has been parsed can be copied. -/
theorem ready_of_parsed {S : CSizes} {M : CMemory} {src : Nat} (h : ParsedNtf S M src) :
  ∃ ntf, ReadyNtf S M src ntf
  := by
  obtain ⟨mem, pkt, len, hasParam, ntf, param, hparse, hwithin, hbytes, hread, hsome, hparam⟩ := h
  obtain ⟨hproper, hlen⟩ := parsed_paramBytes hparse
  refine ⟨ntf.object param, hread, hproper, ?_, ?_, ?_⟩
  · apply content_of_within hbytes
    show GUtilData.Within ⟨ntf.paramBytes, ntf.paramLen⟩ pkt len
    rw [GUtilData.Within]
    split
    · rename_i i hi
      obtain ⟨harea, -⟩ := area_discoverNtf hparse hi
      exact ⟨harea.low, harea.high⟩
    · rename_i hnone
      dsimp only at hnone
      rw [hnone] at hproper
      exact bne_eq_false_iff_eq.mp hproper.symm
  · intro hsome'
    exact hlen (hsome ▸ hsome')
  · intro j hj
    have hj' : param = some j := hj
    rw [hj'] at hsome
    obtain ⟨p, hp⟩ := Option.isSome_iff_exists.mp hsome.symm
    rw [hp] at hlen
    rw [bne_iff_ne.mpr (hlen rfl)] at hproper
    obtain ⟨base, hbase⟩ := Option.isSome_iff_exists.mp hproper
    obtain ⟨-, hparsed⟩ := area_discoverNtf hparse hbase
    refine ⟨p, (hparam j hj).trans hp, ?_, ?_⟩
    · rw [hp] at hparsed
      cases hasParam with
      | true => exact ⟨mem, base, ntf.paramLen, hparsed.symm⟩
      | false => cases hparsed
    · intro v hv
      exact content_of_within hbytes (hwithin p hp v hv)

/-- The regions that an array of `n` notifications and everything that belongs to it occupy. -/
def CSizes.arrayRegions (S : CSizes) (M : CMemory) (i n : Nat) : List Region :=
  (List.range n).map (fun k => ⟨i + S.discoveryNtf * k, S.discoveryNtf⟩)
    ++ (List.range n).flatMap fun k => S.nestedRegions M (i + S.discoveryNtf * k)

/-- The elements of an array follow one another. -/
theorem packed_elements (i size n : Nat) :
  Region.Packed i ((List.range n).map fun k => ⟨i + size * k, size⟩) (i + size * n)
  := by
  induction n with
  | zero => exact Nat.le_refl i
  | succ n ih =>
      rw [List.range_succ, List.map_append]
      apply ih.append
      refine ⟨Nat.le_refl _, ?_⟩
      show i + size * n + size ≤ i + size * (n + 1)
      rw [Nat.mul_add, Nat.mul_one, Nat.add_assoc]

/-- An array of notifications, the parameters of which have been parsed within their bounds or not
at all, has a deep copy: it is the same as the array, if where things are is not looked at.
Everything that belongs to the copy lies in its own block, where nothing has been before, and no two
parts of it have an address in common. Nothing else is changed. -/
theorem notificationsCopied (S : CSizes) (malloc : Nat → Nat) (M : CMemory)
    (hmalloc : ∀ size, M.Fresh ⟨malloc size, size⟩) (ntfs : List Nat)
    (hntfs : ∀ src ∈ ntfs, ParsedNtf S M src) :
  (ntfs = [] → (nciDiscoveryNtfCopyArray S malloc ntfs).Returns M none M)
    ∧ (ntfs ≠ [] → ∃ size M',
      (nciDiscoveryNtfCopyArray S malloc ntfs).Returns M (some (malloc size)) M'
        ∧ SameBut ⟨malloc size, size⟩ M M'
        ∧ M.Fresh ⟨malloc size, size⟩
        ∧ (∀ k (hk : k < ntfs.length),
          S.deepDiscoveryNtf M' (malloc size + S.discoveryNtf * k) = S.deepDiscoveryNtf M ntfs[k]
            ∧ (S.deepDiscoveryNtf M ntfs[k]).isSome = true)
        ∧ (∀ r ∈ S.arrayRegions M' (malloc size) ntfs.length, r.Inside ⟨malloc size, size⟩)
        ∧ (S.arrayRegions M' (malloc size) ntfs.length).Pairwise Region.Apart)
  := by
  constructor
  · rintro rfl
    exact returns_pure _ _
  · intro hne
    have hready := fun src hsrc => ready_of_parsed (hntfs src hsrc)
    have hsizes := returns_discoveryNtfSizes hready (gAlign8 (S.discoveryNtf * ntfs.length))
    generalize hsum : (ntfs.map (S.nestedSize M)).sum = sum at hsizes
    generalize hsize : gAlign8 (S.discoveryNtf * ntfs.length) + sum = size at hsizes
    have halign := le_gAlign8 (S.discoveryNtf * ntfs.length)
    have hroom : Room M (M.fill ⟨malloc size, size⟩ (.byte 0)) ⟨malloc size, size⟩ :=
      ⟨extends_fill (hmalloc size) _, hmalloc size, inUse_fill _ _ _⟩
    have hdests : Region.Inside ⟨malloc size, S.discoveryNtf * ntfs.length⟩
        ⟨malloc size, size⟩ := by
      refine ⟨Nat.le_refl _, Nat.add_le_add_left ?_ _⟩
      show S.discoveryNtf * ntfs.length ≤ size
      omega
    have hptrs : Region.Inside
        ⟨malloc size + gAlign8 (S.discoveryNtf * ntfs.length), (ntfs.map (S.nestedSize M)).sum⟩
        ⟨malloc size, size⟩ := by
      refine ⟨Nat.le_add_right _ _, ?_⟩
      show malloc size + gAlign8 (S.discoveryNtf * ntfs.length) + (ntfs.map (S.nestedSize M)).sum
        ≤ malloc size + size
      omega
    obtain ⟨M', hloop, hsame, hdeep, hpacked⟩ := returns_discoveryNtfsCopy hready
      (hroom.inside hdests) (hroom.inside hptrs) (Nat.add_le_add_left halign _)
    have hregions : Region.Packed (malloc size) (S.arrayRegions M' (malloc size) ntfs.length)
        (malloc size + size) := by
      have helements := (packed_elements (malloc size) S.discoveryNtf ntfs.length).mono
        (Nat.le_refl _) (Nat.add_le_add_left halign (malloc size))
      apply (helements.append hpacked).mono (Nat.le_refl _)
      omega
    refine ⟨size, M', ?_, ?_, hmalloc size, hdeep, ?_, hregions.apart⟩
    · rw [nciDiscoveryNtfCopyArray, if_pos hne]
      apply hsizes.bind
      apply (returns_alloc _ _ _).bind
      exact hloop.bind (returns_pure _ _)
    · intro i hi
      rw [hsame i (fun hmem => hi (hdests.mem hmem)) fun hmem => hi (hptrs.mem hmem)]
      exact sameBut_fill M ⟨malloc size, size⟩ (.byte 0) i hi
    · intro r hr
      exact hregions.inside hr

/-- A memory with a notification from an endpoint in NFC-B poll mode, the parameters of which have
been parsed. -/
def discoveredMemory : CMemory :=
  Memory.write
    (smallMemory (memory [1, 4, 1, 12, 11, 1, 2, 3, 4, 5, 6, 7, 8, 0, 0x81, 0, 2]) 17
      smallSizes.modeParamLayout.toLayout
      (.pollB { nfcid0 := [1, 2, 3, 4], fsc := 256, appData := [5, 6, 7, 8],
                protInfo := ⟨some 13, 3⟩ }))
    smallSizes.discoveryNtfLayout 200
    { discoveryId := 1, protocol := .isoDep, mode := .passivePollB, paramLen := 12,
      paramBytes := some 4, param := some 100, last := false }

theorem parsedNtf_discoveredMemory :
  ParsedNtf smallSizes discoveredMemory 200
  := by
  have hkept : Memory.Agrees
      (smallMemory (memory [1, 4, 1, 12, 11, 1, 2, 3, 4, 5, 6, 7, 8, 0, 0x81, 0, 2]) 17
        smallSizes.modeParamLayout.toLayout
        (.pollB { nfcid0 := [1, 2, 3, 4], fsc := 256, appData := [5, 6, 7, 8],
                  protInfo := ⟨some 13, 3⟩ }))
      discoveredMemory ⟨0, 200⟩ := by
    rintro i ⟨-, hi⟩
    apply sameBut_write
    rintro ⟨hi', -⟩
    exact absurd (Nat.lt_of_lt_of_le hi hi') (Nat.lt_irrefl i)
  refine ⟨memory [1, 4, 1, 12, 11, 1, 2, 3, 4, 5, 6, 7, 8, 0, 0x81, 0, 2], 0, 17, true, _, some 100,
    rfl, by decide, ?_, read_write _ _ _, rfl, ?_⟩
  · intro i hi hi'
    rw [hkept i ⟨hi, by dsimp only [Region.stop]; omega⟩]
    exact inMemory_smallMemory _ (by decide) _ _ i hi hi'
  · rintro j ⟨⟩
    rw [(hkept.inside _).read]
    · exact read_write _ _ _
    · exact ⟨Nat.zero_le _, by decide⟩

/-- The same endpoint twice. -/
theorem notificationsCopied_discovered :
  ∃ size M',
    (nciDiscoveryNtfCopyArray smallSizes (fun _ => 1000) [200, 200]).Returns discoveredMemory
        (some 1000) M'
      ∧ SameBut ⟨1000, size⟩ discoveredMemory M'
      ∧ discoveredMemory.Fresh ⟨1000, size⟩
      ∧ (∀ k (hk : k < 2),
        smallSizes.deepDiscoveryNtf M' (1000 + smallSizes.discoveryNtf * k)
            = smallSizes.deepDiscoveryNtf discoveredMemory ([200, 200].get ⟨k, hk⟩)
          ∧ (smallSizes.deepDiscoveryNtf discoveredMemory ([200, 200].get ⟨k, hk⟩)).isSome = true)
      ∧ (∀ r ∈ smallSizes.arrayRegions M' 1000 2, r.Inside ⟨1000, size⟩)
      ∧ (smallSizes.arrayRegions M' 1000 2).Pairwise Region.Apart
  := by
  apply (notificationsCopied smallSizes (fun _ => 1000) discoveredMemory _ [200, 200] _).2
  · intro h
    cases h
  · intro size
    rintro i ⟨hi, -⟩
    dsimp only at hi
    have hsmall :=
      fresh_smallMemory (memory [1, 4, 1, 12, 11, 1, 2, 3, 4, 5, 6, 7, 8, 0, 0x81, 0, 2])
      (n := 17) (by decide) (T := smallSizes.modeParamLayout.toLayout) (by decide)
      (.pollB { nfcid0 := [1, 2, 3, 4], fsc := 256, appData := [5, 6, 7, 8],
                protInfo := ⟨some 13, 3⟩ }) (i + 1) i ⟨hi, by dsimp only [Region.stop]; omega⟩
    rw [← hsmall]
    apply sameBut_write
    rintro ⟨-, hi'⟩
    have hi'' : i < 200 + 32 := hi'
    omega
  · intro src hsrc
    obtain rfl : src = 200 := by simpa using hsrc
    exact parsedNtf_discoveredMemory

end Nci
