import Symbolication.Command.Options

namespace Symbolication.Command

def Options.switchedOn (options : Options) : Switch → Options
  | .json => { options with json := true }
  | .quiet => { options with quiet := true }
  | .help => options

def Options.isOn (options : Options) : Switch → Bool
  | .json => options.json
  | .quiet => options.quiet
  | .help => false

namespace Draft

variable {draft draft' : Draft} {switch : Switch}

def switchedOn (draft : Draft) : Switch → Draft
  | .json => { draft with json := true }
  | .quiet => { draft with quiet := true }
  | .help => draft

def isOn (draft : Draft) : Switch → Bool
  | .json => draft.json
  | .quiet => draft.quiet
  | .help => false

theorem add_switchedOn (addresses : List String) :
    (draft.switchedOn switch).add addresses = (draft.add addresses).switchedOn switch := by
  cases switch <;> rfl

theorem isOn_add (addresses : List String) :
    (draft.add addresses).isOn switch = draft.isOn switch := by
  cases switch <;> rfl

/-- The value of a setting has nothing to do with a switch. -/
theorem set_switchedOn {key : Setting} {value : String} (h : draft.set key value = .ok draft') :
    draft'.isOn switch = draft.isOn switch ∧
      (draft.switchedOn switch).set key value = .ok (draft'.switchedOn switch) := by
  cases key <;> simp only [set] at h <;> split at h <;> cases h <;> cases switch <;>
    simp_all [set, isOn, switchedOn]

theorem setting_switchedOn {key : Setting} {value : String} {pending : Option Setting}
    (h : (do return (← draft.set key value, none)) = Except.ok (draft', pending))
    (hoff : draft'.isOn switch = false) :
    draft.isOn switch = false ∧
      (do return (← (draft.switchedOn switch).set key value, none)) =
        Except.ok (draft'.switchedOn switch, pending) := by
  cases hset : draft.set key value with
  | error refusal =>
    rw [hset] at h
    cases h
  | ok next =>
    rw [hset] at h
    cases h
    obtain ⟨hsame, hsetOn⟩ := set_switchedOn hset
    rw [hsetOn]
    exact ⟨hsame ▸ hoff, rfl⟩

/-- A switch that stays off is not the one that an argument turns on. -/
theorem turnOn_switchedOn {key : Switch} (h : draft.turnOn key = .ok draft')
    (hoff : draft'.isOn switch = false) :
    draft.isOn switch = false ∧
      (draft.switchedOn switch).turnOn key = .ok (draft'.switchedOn switch) := by
  cases key with
  | help => cases h
  | json =>
    simp only [turnOn] at h
    split at h <;> cases h
    cases switch <;> simp_all [turnOn, isOn, switchedOn]
  | quiet =>
    simp only [turnOn] at h
    split at h <;> cases h
    cases switch <;> simp_all [turnOn, isOn, switchedOn]

theorem letters_switchedOn {cs : List Char} {key : Option Setting}
    (h : draft.letters cs = .ok (draft', key)) (hoff : draft'.isOn switch = false) :
    draft.isOn switch = false ∧
      (draft.switchedOn switch).letters cs = .ok (draft'.switchedOn switch, key) := by
  induction cs generalizing draft with
  | nil =>
    cases h
    exact ⟨hoff, rfl⟩
  | cons c rest ih =>
    simp only [letters] at h ⊢
    split at h
    · cases h
    · next key hkey =>
      cases hon : draft.turnOn key with
      | error => simp [hon, bind, Except.bind] at h
      | ok next =>
        simp only [hon, bind, Except.bind] at h
        obtain ⟨hnext, hrest⟩ := ih h
        obtain ⟨hdraft, hnextOn⟩ := turnOn_switchedOn hon hnext
        exact ⟨hdraft, by simp [hnextOn, bind, Except.bind, hrest]⟩
    · next key hkey =>
      split at h
      · next hempty =>
        cases h
        exact ⟨hoff, by simp [hempty]⟩
      · next hvalue =>
        rw [if_neg hvalue]
        exact setting_switchedOn h hoff

theorem argument_switchedOn {s : String} {key : Option Setting}
    (h : draft.argument s = .ok (draft', key)) (hoff : draft'.isOn switch = false) :
    draft.isOn switch = false ∧
      (draft.switchedOn switch).argument s = .ok (draft'.switchedOn switch, key) := by
  simp only [argument] at h ⊢
  split at h
  · cases h
    exact ⟨isOn_add [s] ▸ hoff, by rw [add_switchedOn]⟩
  · exact letters_switchedOn h hoff
  · split at h
    · cases h
      exact ⟨hoff, rfl⟩
    · exact setting_switchedOn h hoff
    · simp only [bind, Except.bind] at h
      split at h
      · cases h
      · next next hon =>
        cases h
        obtain ⟨hdraft, hnextOn⟩ := turnOn_switchedOn hon hoff
        exact ⟨hdraft, by simp [hnextOn, bind, Except.bind, pure, Except.pure]⟩
    · cases h

theorem arguments_switchedOn {rest : List String} (h : draft.arguments rest = .ok draft')
    (hoff : draft'.isOn switch = false) :
    draft.isOn switch = false ∧
      (draft.switchedOn switch).arguments rest = .ok (draft'.switchedOn switch) := by
  fun_induction arguments draft rest with
  | case1 draft =>
    cases h
    exact ⟨hoff, by simp [arguments]⟩
  | case2 draft rest =>
    cases h
    exact ⟨isOn_add rest ▸ hoff, by simp [arguments, add_switchedOn]⟩
  | case3 => cases h
  | case4 draft s rest hs next harg ih =>
    obtain ⟨hnext, hrest⟩ := ih h
    obtain ⟨hdraft, harg'⟩ := argument_switchedOn harg hnext
    exact ⟨hdraft, by rw [arguments]; simp [hs, harg', hrest]⟩
  | case5 => cases h
  | case6 => cases h
  | case7 draft s hs next key harg value rest hvalue last hset ih =>
    obtain ⟨hlast, hrest⟩ := ih h
    obtain ⟨hsame, hsetOn⟩ := set_switchedOn hset
    obtain ⟨hdraft, harg'⟩ := argument_switchedOn harg (hsame ▸ hlast)
    exact ⟨hdraft, by rw [arguments]; simp [hs, harg', hvalue, hsetOn, hrest]⟩
  | case8 => cases h

/-- The options of a draft have the switches of the draft. -/
theorem options_switchedOn (switch : Switch) {options : Options} (h : draft.options = .ok options) :
    options.isOn switch = draft.isOn switch ∧
      (draft.switchedOn switch).options = .ok (options.switchedOn switch) := by
  simp only [Draft.options] at h
  split at h <;> cases h <;> cases switch <;>
    simp_all [Draft.options, isOn, switchedOn, Options.isOn, Options.switchedOn]

end Draft

/-- An argument that turns a switch on can stand in front of arguments that leave it off. -/
theorem Options.read_switchedOn (switch : Switch) {s : String} {arguments : List String}
    {options : Options} (hs : Draft.empty.argument s = .ok (Draft.empty.switchedOn switch, none))
    (h : read arguments = .ok options) (hoff : options.isOn switch = false) :
    read (s :: arguments) = .ok (options.switchedOn switch) := by
  cases hdraft : Draft.empty.arguments arguments with
  | error refusal =>
    rw [read, hdraft] at h
    cases h
  | ok draft =>
    have hoptions : draft.options = .ok options := by
      rw [read, hdraft] at h
      exact h
    obtain ⟨hsame, hoptionsOn⟩ := Draft.options_switchedOn switch hoptions
    have hmark : s ≠ "--" := by
      rintro rfl
      cases hs
    have hfirst : Draft.empty.arguments (s :: arguments) =
        (Draft.empty.switchedOn switch).arguments arguments := by
      rw [Draft.arguments, if_neg hmark, hs]
    have hrest := (Draft.arguments_switchedOn hdraft (hsame ▸ hoff)).2
    rw [read, hfirst, hrest]
    exact hoptionsOn

end Symbolication.Command
