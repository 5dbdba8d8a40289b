import Bilingua.Command.Basic

/-!
# Settings of an invocation

An invocation has the settings of its file, if a file applies, and else the default ones; a tab size
on the command line takes the place of theirs. The settings of a file are looked at before that, so
that a tab size of zero in the file is refused even where it would not be used.

What can go wrong is listed in `Command.Unusable`. Nothing else can (`Command.settings_loaded`), and
in what is left no tab size is zero.
-/

namespace Bilingua

namespace Settings

/-- The text is a settings document with these settings, be it with a tab size of zero. -/
def Declares (t : Text) (s : Settings) : Prop :=
  ∃ es, Toml.parse t = some es ∧ readFields .default es = .ok s

variable {t : Text} {s s' : Settings}

theorem Declares.unique (h : Declares t s) (h' : Declares t s') : s = s' := by
  obtain ⟨es, hparse, hread⟩ := h
  obtain ⟨es', hparse', hread'⟩ := h'
  obtain rfl := Option.some_inj.1 (hparse.symm.trans hparse')
  exact Except.ok.inj (hread.symm.trans hread')

theorem Declares.ofText_eq (h : Declares t s) : ofText t = s.validated := by
  obtain ⟨es, hparse, hread⟩ := h
  simp only [ofText, hparse, hread]

theorem ofText_eq_ok : ofText t = .ok s ↔ Declares t s ∧ s.tabSize ≠ 0 := by
  constructor
  · intro h
    unfold ofText at h
    split at h
    · cases h
    · next es hparse =>
      split at h
      · cases h
      · next s' hread =>
        unfold validated at h
        split at h
        · cases h
        · next hzero =>
          obtain rfl := Except.ok.inj h
          exact ⟨⟨es, hparse, hread⟩, hzero⟩
  · rintro ⟨hdeclared, hzero⟩
    rw [hdeclared.ofText_eq, validated, if_neg hzero]

end Settings

namespace Command

open Settings

/-- The settings file that applies: the one that is named, or else the default one if it is there. -/
def settingsFile? (host : Host) (config : Option Path) : Option Path :=
  config <|> if host.isFile defaultSettingsFile then some defaultSettingsFile else none

inductive BaseSettings (host : Host) (config : Option Path) : Settings → Prop where
  | default (hfile : settingsFile? host config = none) : BaseSettings host config .default
  | file {path : Path} {text : Text} {s : Settings} (hfile : settingsFile? host config = some path)
      (hread : host.read path = .ok text) (hdeclared : Declares text s) : BaseSettings host config s

/-- What can be wrong with the settings of an invocation. -/
inductive Unusable (host : Host) (config : Option Path) (tabSize : Option Nat) : Prop where
  | unreadable {path : Path} {e : ReadError} (hfile : settingsFile? host config = some path)
      (hread : host.read path = .error e)
  | noSettings {path : Path} {text : Text} (hfile : settingsFile? host config = some path)
      (hread : host.read path = .ok text) (hdeclared : ¬ ∃ s, Declares text s)
  | zeroInFile {path : Path} {text : Text} {s : Settings}
      (hfile : settingsFile? host config = some path)
      (hread : host.read path = .ok text) (hdeclared : Declares text s) (hzero : s.tabSize = 0)
  | zeroOnCommandLine (hzero : tabSize = some 0)

variable {host : Host} {config : Option Path} {tabSize : Option Nat} {path : Path} {s base : Settings}

/-! ## The settings of a file -/

theorem fileSettings_eq (host : Host) (config : Option Path) :
    fileSettings host config =
      match settingsFile? host config with
      | none => .ok .default
      | some path => readSettings host path := by
  cases config with
  | some path => rfl
  | none =>
    simp only [fileSettings, settingsFile?]
    split <;> rfl

theorem readSettings_eq_ok :
    readSettings host path = .ok s ↔
      ∃ text, host.read path = .ok text ∧ Declares text s ∧ s.tabSize ≠ 0 := by
  unfold readSettings
  cases host.read path with
  | error e => simp
  | ok text =>
    simp only [Except.ok.injEq, exists_eq_left', ← ofText_eq_ok]
    cases ofText text with
    | error e => simp
    | ok s' => simp

theorem BaseSettings.declares (h : BaseSettings host config base)
    (hfile : settingsFile? host config = some path) :
    ∃ text, host.read path = .ok text ∧ Declares text base := by
  cases h with
  | default hnone => cases hnone.symm.trans hfile
  | file hfile' hread hdeclared =>
    obtain rfl := Option.some_inj.1 (hfile'.symm.trans hfile)
    exact ⟨_, hread, hdeclared⟩

theorem fileSettings_eq_ok :
    fileSettings host config = .ok s ↔ BaseSettings host config s ∧ s.tabSize ≠ 0 := by
  rw [fileSettings_eq]
  cases hfile : settingsFile? host config with
  | none =>
    constructor
    · intro h
      obtain rfl := Except.ok.inj h
      exact ⟨.default hfile, by decide⟩
    · rintro ⟨hbase, _⟩
      cases hbase with
      | default => rfl
      | file hfile' => cases hfile.symm.trans hfile'
  | some path =>
    simp only [readSettings_eq_ok]
    constructor
    · rintro ⟨text, hread, hdeclared, hzero⟩
      exact ⟨.file hfile hread hdeclared, hzero⟩
    · rintro ⟨hbase, hzero⟩
      obtain ⟨text, hread, hdeclared⟩ := hbase.declares hfile
      exact ⟨text, hread, hdeclared, hzero⟩

/-! ## The settings of an invocation -/

theorem loadSettings_eq_ok :
    loadSettings host config tabSize = .ok s ↔
      ∃ base, BaseSettings host config base ∧ base.tabSize ≠ 0 ∧ tabSize ≠ some 0 ∧
        s = { base with tabSize := tabSize.getD base.tabSize } := by
  simp only [← and_assoc, ← fileSettings_eq_ok]
  unfold loadSettings
  cases fileSettings host config with
  | error f => simp
  | ok base =>
    cases tabSize with
    | none => simp [eq_comm]
    | some n =>
      by_cases hn : n = 0
      · simp [validated, hn]
      · simp [validated, hn, eq_comm]

/-- Settings are unusable exactly if there are none before the command line has its say, or one of
the two tab sizes is zero. -/
theorem not_unusable_iff :
    ¬ Unusable host config tabSize ↔
      ∃ base, BaseSettings host config base ∧ base.tabSize ≠ 0 ∧ tabSize ≠ some 0 := by
  constructor
  · intro h
    have htab : tabSize ≠ some 0 := fun hzero => h (.zeroOnCommandLine hzero)
    cases hfile : settingsFile? host config with
    | none => exact ⟨.default, .default hfile, by decide, htab⟩
    | some path =>
      cases hread : host.read path with
      | error e => exact absurd (.unreadable hfile hread) h
      | ok text =>
        by_cases hdeclared : ∃ s, Declares text s
        · obtain ⟨s, hdeclared⟩ := hdeclared
          have hzero : s.tabSize ≠ 0 := fun hzero => h (.zeroInFile hfile hread hdeclared hzero)
          exact ⟨s, .file hfile hread hdeclared, hzero, htab⟩
        · exact absurd (.noSettings hfile hread hdeclared) h
  · rintro ⟨base, hbase, hzero, htab⟩ h
    cases h with
    | zeroOnCommandLine h => exact htab h
    | unreadable hfile hread =>
      obtain ⟨text, hread', _⟩ := hbase.declares hfile
      cases hread.symm.trans hread'
    | noSettings hfile hread hnone =>
      obtain ⟨text, hread', hdeclared⟩ := hbase.declares hfile
      obtain rfl := Except.ok.inj (hread.symm.trans hread')
      exact hnone ⟨base, hdeclared⟩
    | zeroInFile hfile hread hdeclared hzero' =>
      obtain ⟨text, hread', hdeclared'⟩ := hbase.declares hfile
      obtain rfl := Except.ok.inj (hread.symm.trans hread')
      exact hzero (hdeclared.unique hdeclared' ▸ hzero')

/-- An invocation fails before it does anything exactly if its settings are unusable. Otherwise it is
carried out with settings whose tab size is at least one: that of the command line if there is one,
and all else as in the file or by default. -/
theorem settings_loaded (host : Host) (i : Invocation) :
    Unusable host i.config i.tabSize ∧
        (∃ f, loadSettings host i.config i.tabSize = .error f ∧ invoke host i = failed [] f) ∨
      ¬ Unusable host i.config i.tabSize ∧
        ∃ base s, BaseSettings host i.config base ∧
          loadSettings host i.config i.tabSize = .ok s ∧ 1 ≤ s.tabSize ∧
          s = { base with tabSize := i.tabSize.getD base.tabSize } ∧
          invoke host i = perform s host i.action := by
  cases hload : loadSettings host i.config i.tabSize with
  | error f =>
    refine .inl ⟨Classical.not_not.1 fun hunusable => ?_, f, rfl, by simp only [invoke, hload]⟩
    obtain ⟨base, hbase, hzero, htab⟩ := not_unusable_iff.1 hunusable
    cases hload.symm.trans (loadSettings_eq_ok.2 ⟨base, hbase, hzero, htab, rfl⟩)
  | ok s =>
    obtain ⟨base, hbase, hzero, htab, hs⟩ := loadSettings_eq_ok.1 hload
    refine .inr ⟨not_unusable_iff.2 ⟨base, hbase, hzero, htab⟩, base, s, hbase, rfl, ?_, hs,
      by simp only [invoke, hload]⟩
    rw [hs]
    show 0 < i.tabSize.getD base.tabSize
    cases htabSize : i.tabSize with
    | none => exact Nat.pos_of_ne_zero hzero
    | some n => exact Nat.pos_of_ne_zero fun hn => htab (htabSize.trans (congrArg some hn))

end Command

end Bilingua
