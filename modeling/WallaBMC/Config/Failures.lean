import WallaBMC.Config.Flags

/-! A setter that fails. It has written `config_data` by then unless it was refused before, and none of the
setters takes that back; the store it leaves alone. -/

namespace WallaBMC.Config

open Redfish Storage

variable {p : Platform} {faults : Faults} {s t : State} {c : SetterCall} {rc : ℤ}

/-- The call gets as far as `config_data`. -/
def SetterCall.Records (p : Platform) (faults : Faults) (c : SetterCall) : Prop :=
  match c with
  | password str => str.bytes.length ≤ maxPwLen
  | hostname _ => (faults.field .bmcHostname).net.hostname = none
  | ip4 str | ip4Nm str | ip4Gw str => ip4Stoa p str ≠ none
  | useDhcp4 _ | useNtp _ | ntpServer _ | autoPoweron _ => True

lemma ip4Set_data {str : Option CString} (hreq : c.requested p = (ip4Stoa p str).map Ip4.bytes)
    (hstr : c.id.isStr = false) : (ip4Set p faults c.id str s).2.data = c.written p s.data := by
  rw [ip4Set]
  cases hparse : ip4Stoa p str with
  | none =>
    rw [hparse] at hreq
    exact (written_of_none hreq s.data).symm
  | some address =>
    rw [hparse] at hreq
    rw [written_scalar hreq hstr]
    dsimp only
    split_ifs
    · rfl
    · exact configSave_data _ _ _

lemma flagSet_data {use : Bool} {apply : Bool → State → Net} (hflag : c.flag? = some use) :
    (flagSet faults c.id apply use s).2.data = c.written p s.data := by
  obtain ⟨hreq, hstr, -⟩ := flag_requested (p := p) hflag
  rw [flagSet]
  split_ifs with hsame
  · exact (idle_written ⟨use, hflag, hsame⟩).symm
  · rw [configSave_data, written_scalar hreq hstr]

lemma configBmcNtpServerSet_data (str : CString) :
    (configBmcNtpServerSet faults str s).2.data = s.data.strlcpy .bmcNtpServer str := by
  have hsave := configSave_data faults { s with data := s.data.strlcpy .bmcNtpServer str } .bmcNtpServer
  rw [configBmcNtpServerSet]
  dsimp only
  split_ifs <;> exact hsave

lemma ip4_recorded {str : Option CString} (hreq : c.requested p = (ip4Stoa p str).map Ip4.bytes)
    (hstr : c.id.isStr = false) :
    (ip4Stoa p str ≠ none → (ip4Set p faults c.id str s).2.data = c.written p s.data) ∧
      (¬ ip4Stoa p str ≠ none → (ip4Set p faults c.id str s).2.data = s.data) := by
  refine ⟨fun _ => ip4Set_data hreq hstr, ?_⟩
  intro hnone
  rw [not_not.mp hnone] at hreq
  rw [ip4Set, not_not.mp hnone]

/-- What a call leaves in `config_data`, whether it fails or not. -/
theorem setter_data (p : Platform) (faults : Faults) (s : State) (c : SetterCall) :
    (c.Records p faults → (c.run p faults s).2.data = c.written p s.data) ∧
      (¬ c.Records p faults → (c.run p faults s).2.data = s.data) := by
  cases c with
  | password str =>
    rw [SetterCall.run, configBmcPasswordSet]
    split_ifs with hlong
    · exact ⟨fun hrecords => absurd hrecords hlong.not_ge, fun _ => rfl⟩
    · refine ⟨fun _ => ?_, fun hrefused => absurd (not_lt.mp hlong) hrefused⟩
      rw [configSave_data]
      exact (written_str (c := .password str) rfl rfl s.data).symm
  | hostname str =>
    have hset : (netDoSetHostname s.data.bmcUseDhcp4 (faults.field .bmcHostname).net.hostname str s.net).1 = 0 ↔
        (faults.field .bmcHostname).net.hostname = none := netDoSetHostname_zero
    rw [SetterCall.run, configBmcHostnameSet]
    dsimp only
    split_ifs with hrc
    · exact ⟨fun hrecords => absurd (hset.mpr hrecords) hrc, fun _ => rfl⟩
    · refine ⟨fun _ => ?_, fun hrefused => absurd (hset.mp (not_not.mp hrc)) hrefused⟩
      rw [configSave_data]
      exact (written_str (c := .hostname str) rfl rfl s.data).symm
  | ip4 str => exact ip4_recorded (c := .ip4 str) rfl rfl
  | ip4Nm str => exact ip4_recorded (c := .ip4Nm str) rfl rfl
  | ip4Gw str => exact ip4_recorded (c := .ip4Gw str) rfl rfl
  | useDhcp4 use => exact ⟨fun _ => flagSet_data (c := .useDhcp4 use) rfl, fun h => absurd trivial h⟩
  | useNtp use => exact ⟨fun _ => flagSet_data (c := .useNtp use) rfl, fun h => absurd trivial h⟩
  | autoPoweron use => exact ⟨fun _ => flagSet_data (c := .autoPoweron use) rfl, fun h => absurd trivial h⟩
  | ntpServer str =>
    refine ⟨fun _ => ?_, fun h => absurd trivial h⟩
    exact (configBmcNtpServerSet_data str).trans (written_str (c := .ntpServer str) rfl rfl s.data).symm

lemma Effect.failed_fs (h : Effect p faults s c rc t) (hrc : rc ≠ 0) : t.fs = s.fs := by
  cases h with
  | idle | saved => exact absurd rfl hrc
  | refused _ _ _ _ _ _ hfs | unsaved _ _ _ _ _ _ _ _ hfs => exact hfs

/-- The store and all other fields are as before; so is the field of the setter, or it has the new value. -/
structure LeftBehind (p : Platform) (faults : Faults) (s : State) (c : SetterCall) (t : State) : Prop where
  fs : t.fs = s.fs
  others : ∀ id, id ≠ c.id → t.data.bytes id = s.data.bytes id
  own : t.data = s.data ∨ t.data = c.written p s.data
  refused : ¬ c.Records p faults → t.data = s.data

theorem failed_setter_left (p : Platform) (faults : Faults) (s : State) (c : SetterCall)
    (h : (c.run p faults s).1 ≠ 0) : LeftBehind p faults s c (c.run p faults s).2 := by
  obtain ⟨hrecorded, hrefused⟩ := setter_data p faults s c
  have hown : (c.run p faults s).2.data = s.data ∨ (c.run p faults s).2.data = c.written p s.data := by
    by_cases hrecords : c.Records p faults
    · exact .inr (hrecorded hrecords)
    · exact .inl (hrefused hrecords)
  constructor
  · exact (setter_effect p faults s c).failed_fs h
  · intro id hid
    rcases hown with hsame | hwritten
    · rw [hsame]
    · rw [hwritten, bytes_written_of_ne hid]
  · exact hown
  · exact hrefused

theorem setter_unchanged_iff (p : Platform) (faults : Faults) (s : State) (c : SetterCall) :
    (c.run p faults s).2.data = s.data ↔ (c.Records p faults → c.written p s.data = s.data) := by
  obtain ⟨hrecorded, hrefused⟩ := setter_data p faults s c
  by_cases hrecords : c.Records p faults
  · rw [hrecorded hrecords]
    exact ⟨fun hsame _ => hsame, fun hsame => hsame hrecords⟩
  · exact iff_of_true (hrefused hrecords) (fun hdone => absurd hdone hrecords)

theorem failed_setter_left_unsaved :
    LeftBehind samplePlatform failingWrites (boot samplePlatform .none (mounted emptyStore)) (.useDhcp4 false)
      ((SetterCall.useDhcp4 false).run samplePlatform failingWrites
        (boot samplePlatform .none (mounted emptyStore))).2 :=
  failed_setter_left samplePlatform failingWrites (boot samplePlatform .none (mounted emptyStore))
    (.useDhcp4 false) (by decide +kernel)

theorem failed_setter_changes :
    ((SetterCall.useDhcp4 false).run samplePlatform failingWrites
        (boot samplePlatform .none (mounted emptyStore))).1 ≠ 0 ∧
      ((SetterCall.useDhcp4 false).run samplePlatform failingWrites
        (boot samplePlatform .none (mounted emptyStore))).2.data ≠
      (boot samplePlatform .none (mounted emptyStore)).data := by
  refine ⟨by decide +kernel, ?_⟩
  intro hsame
  have hbytes := congrArg (fun data : ConfigData => data.bytes .bmcUseDhcp4) hsame
  exact absurd hbytes (by decide +kernel)

end WallaBMC.Config
