import ManufacturingMas.Proofs.EnvironmentFile

/-! The settings that a process has from its variables and its file. -/

namespace ManufacturingMas.Proofs.ProcessSettings
open Py Config EnvironmentFile

variable {py : Interpreter} {environ environ' : Environ} {text : List Char}

/-- Nothing is left to strip. -/
def Trimmed (s : String) : Prop := stripText s = s

instance (s : String) : Decidable (Trimmed s) := inferInstanceAs (Decidable (stripText s = s))

/-- Settings that the rest of the program can use as they are. -/
structure Valid (s : Settings) : Prop where
  scope : s.llmRouterScope ∈ validScopes
  llmModel : s.llmModel ≠ ""
  logLevel : s.logLevel ≠ ""
  corsOrigins : s.corsOrigins ≠ ""
  trimmed : ∀ x ∈ [s.apiHost,s.llmModel,s.llmDomainModel,s.logLevel,s.apiBearerToken,
    s.corsOrigins], Trimmed x
  origins : ∀ origin ∈ s.corsOriginList, origin ≠ "" ∧ Trimmed origin

/-! ### Texts -/

theorem strip_trimmed (s : String) : Trimmed (stripText s) := by
  unfold Trimmed stripText strip
  rw [String.toList_ofList, stripBy_stripBy]

theorem orText_trimmed {x y : String} (hx : Trimmed x) (hy : Trimmed y) :
    Trimmed (orText x y) := by
  unfold orText
  split
  · exact hy
  · exact hx

theorem orText_ne {x y : String} (hy : y ≠ "") : orText x y ≠ "" := by
  unfold orText
  split
  · exact hy
  · assumption

theorem strip_blank {v : String} (h : isBlank v = true) : stripText v = "" := by
  have hnil : strip v.toList = [] := by simpa [isBlank] using h
  unfold stripText
  rw [hnil]

theorem strip_not_blank {v : String} (h : isBlank v = false) : stripText v ≠ "" := by
  intro hempty
  have hlist := congrArg String.toList hempty
  unfold stripText at hlist
  rw [String.toList_ofList] at hlist
  unfold isBlank at h
  rw [hlist] at h
  cases h

theorem ne_of_not_blank {v : String} (h : isBlank v = false) : v ≠ "" := by
  rintro rfl
  cases h

theorem visible_some {key v : String} (h : Assoc.get environ key = some v)
    (hv : isBlank v = false) : visible environ key = some v := by
  unfold visible
  rw [h, Option.filter_some, if_pos (by simp [hv])]

theorem visible_blank {key v : String} (h : Assoc.get environ key = some v)
    (hv : isBlank v = true) : visible environ key = none := by
  unfold visible
  rw [h, Option.filter_some, if_neg (by simp [hv])]

theorem visible_unset {key : String} (h : Assoc.get environ key = none) :
    visible environ key = none := by
  unfold visible
  rw [h]
  rfl

theorem blank_chars {v : String} (h : isBlank v = true) : ∀ c ∈ v.toList, isWhitespace c = true :=
  of_stripBy_nil (by simpa [isBlank, strip] using h)

theorem int_blank (py : Interpreter) {v : String} (h : isBlank v = true) :
    intOf py (.str v) = .error .valueError := by
  unfold intOf
  dsimp only
  split
  · rfl
  · exact parseInt_blank (blank_chars h)

/-! ### Single variables -/

/-- A text with a default that is used instead of a blank one. -/
theorem text_visible (environ : Environ) (key default : String)
    (hdefault : Trimmed default) :
    orText (stripText (getText environ key default)) default =
      ((visible environ key).map stripText).getD default := by
  unfold getText
  cases hget : Assoc.get environ key with
  | none =>
    rw [visible_unset hget]
    change orText (stripText default) default = default
    rw [hdefault]
    unfold orText
    split <;> rfl
  | some v =>
    cases hv : isBlank v with
    | true =>
      rw [visible_blank hget hv]
      change orText (stripText v) default = default
      rw [strip_blank hv]
      rfl
    | false =>
      rw [visible_some hget hv]
      exact if_neg (strip_not_blank hv)

theorem plain_visible (environ : Environ) (key : String) :
    stripText (getText environ key "") = ((visible environ key).map stripText).getD "" := by
  have htext := text_visible environ key "" (by decide)
  unfold orText at htext
  split at htext
  · rename_i hempty
    rw [hempty]
    exact htext
  · exact htext

/-- The scope that a variable names. -/
def scopeOf (value : Option String) : String :=
  match value with
  | none => "pa_only"
  | some v =>
    let scope := String.ofList (lower (stripText v))
    if scope ∈ validScopes then scope else "pa_only"

theorem scope_default : String.ofList (lower (stripText "pa_only")) = "pa_only" := by decide

theorem scope_visible (environ : Environ) (key : String) :
    (if String.ofList (lower (stripText (orText (getText environ key "pa_only") "pa_only"))) ∈
        validScopes then
      String.ofList (lower (stripText (orText (getText environ key "pa_only") "pa_only")))
    else "pa_only") = scopeOf (visible environ key) := by
  unfold getText
  cases hget : Assoc.get environ key with
  | none =>
    have hor : orText ((none : Option String).getD "pa_only") "pa_only" = "pa_only" := rfl
    rw [visible_unset hget, hor, scope_default]
    rfl
  | some v =>
    cases hv : isBlank v with
    | true =>
      rw [visible_blank hget hv]
      dsimp only [Option.getD_some, scopeOf]
      unfold orText
      split
      · rw [scope_default]
        rfl
      · rw [strip_blank hv]
        decide
    | false =>
      rw [visible_some hget hv]
      have hor : orText v "pa_only" = v := if_neg (ne_of_not_blank hv)
      rw [Option.getD_some, hor]
      rfl

theorem int_visible (py : Interpreter) (environ : Environ) (key : String) (default : ℤ) :
    getEnvInt py environ key default =
      match visible environ key with
      | none => default
      | some v => (intOf py (.str v)).toOption.getD default := by
  unfold getEnvInt
  cases hget : Assoc.get environ key with
  | none => rw [visible_unset hget]
  | some v =>
    cases hv : isBlank v with
    | true =>
      rw [visible_blank hget hv]
      dsimp only
      split
      · rfl
      · rw [int_blank py hv]
    | false =>
      rw [visible_some hget hv]
      dsimp only
      rw [if_neg (ne_of_not_blank hv)]
      cases intOf py (.str v) <;> rfl

theorem float_visible (environ : Environ) (key : String) (default : PyFloat) :
    getEnvFloat environ key default =
      match visible environ key with
      | none => default
      | some v => (parseFloat v).toOption.getD default := by
  unfold getEnvFloat
  cases hget : Assoc.get environ key with
  | none => rw [visible_unset hget]
  | some v =>
    cases hv : isBlank v with
    | true =>
      rw [visible_blank hget hv]
      dsimp only
      split
      · rfl
      · rw [parseFloat_blank (blank_chars hv)]
    | false =>
      rw [visible_some hget hv]
      dsimp only
      rw [if_neg (ne_of_not_blank hv)]
      cases parseFloat v <;> rfl

theorem bool_visible (environ : Environ) (key : String) :
    getEnvBool environ key false =
      match visible environ key with
      | none => false
      | some v => String.ofList (lower (stripText v)) ∈ ["1","true","yes","on"] := by
  unfold getEnvBool
  cases hget : Assoc.get environ key with
  | none => rw [visible_unset hget]
  | some v =>
    cases hv : isBlank v with
    | true =>
      rw [visible_blank hget hv]
      dsimp only
      split
      · rfl
      · rw [strip_blank hv]
        rfl
    | false =>
      rw [visible_some hget hv]
      dsimp only
      rw [if_neg (ne_of_not_blank hv)]

/-- A host that is blank but not empty is the one blank variable that is not replaced. -/
theorem host_visible (environ : Environ) (key default : String) (hdefault : Trimmed default) :
    let host := stripText (orText (getText environ key default) default)
    (∀ v, visible environ key = some v → host = stripText v) ∧
    (visible environ key = none → host = default ∨ host = "") := by
  unfold getText
  dsimp only
  cases hget : Assoc.get environ key with
  | none =>
    rw [visible_unset hget]
    refine ⟨fun _ => nofun,fun _ => .inl ?_⟩
    have hor : orText ((none : Option String).getD default) default = default := by
      unfold orText
      split <;> rfl
    rw [hor]
    exact hdefault
  | some v =>
    rw [Option.getD_some]
    unfold orText
    cases hv : isBlank v with
    | true =>
      rw [visible_blank hget hv]
      refine ⟨fun _ => nofun,fun _ => ?_⟩
      split
      · exact .inl hdefault
      · exact .inr (strip_blank hv)
    | false =>
      rw [visible_some hget hv, if_neg (ne_of_not_blank hv)]
      refine ⟨?_,nofun⟩
      rintro w ⟨⟩
      rfl

/-! ### All settings -/

/-- The settings that variables give which are set and not blank, but for the host. -/
def settingsOf (py : Interpreter) (value : String → Option String) (host : String) : Settings :=
  let text := fun key default => ((value key).map stripText).getD default
  { apiHost := host
    apiPort := match value "MAS_API_PORT" with
      | none => 8787
      | some v => (intOf py (.str v)).toOption.getD 8787
    taktSec := match value "MAS_TAKT_SEC" with
      | none => .fin 2
      | some v => (parseFloat v).toOption.getD (.fin 2)
    llmModel := text "MAS_LLM_MODEL" "gpt-4o-mini"
    llmDomainModel := text "MAS_LLM_DOMAIN_MODEL" ""
    logLevel := text "MAS_LOG_LEVEL" "INFO"
    apiBearerToken := text "MAS_API_BEARER_TOKEN" ""
    corsOrigins := text "MAS_CORS_ORIGINS" "*"
    llmRouterScope := scopeOf (value "MAS_LLM_ROUTER_SCOPE")
    llmPerAgentAssist := match value "MAS_LLM_PER_AGENT_ASSIST" with
      | none => false
      | some v => String.ofList (lower (stripText v)) ∈ ["1","true","yes","on"] }

theorem build_visible (py : Interpreter) (environ : Environ) :
    buildSettings py environ =
      settingsOf py (visible environ) (buildSettings py environ).apiHost := by
  have hmodel := text_visible environ "MAS_LLM_MODEL" "gpt-4o-mini" (by decide)
  have hlevel := text_visible environ "MAS_LOG_LEVEL" "INFO" (by decide)
  have hcors := text_visible environ "MAS_CORS_ORIGINS" "*" (by decide)
  unfold buildSettings settingsOf
  dsimp only
  rw [int_visible, float_visible, hmodel, plain_visible, hlevel, plain_visible, hcors,
    scope_visible, bool_visible]

theorem origins_listed (s : Settings) :
    ∀ origin ∈ s.corsOriginList, origin ≠ "" ∧ Trimmed origin := by
  intro origin horigin
  unfold Settings.corsOriginList at horigin
  dsimp only at horigin
  split at horigin
  · cases List.mem_singleton.mp horigin
    exact ⟨by decide,by decide⟩
  · obtain ⟨hmem,hne⟩ := List.mem_filter.mp horigin
    obtain ⟨piece,_,rfl⟩ := List.mem_map.mp hmem
    exact ⟨by simpa using hne,strip_trimmed _⟩

theorem build_valid (py : Interpreter) (environ : Environ) : Valid (buildSettings py environ) := by
  have hmodel := orText_trimmed (strip_trimmed (getText environ "MAS_LLM_MODEL" "gpt-4o-mini"))
    (show Trimmed "gpt-4o-mini" by decide)
  have hlevel := orText_trimmed (strip_trimmed (getText environ "MAS_LOG_LEVEL" "INFO"))
    (show Trimmed "INFO" by decide)
  have hcors := orText_trimmed (strip_trimmed (getText environ "MAS_CORS_ORIGINS" "*"))
    (show Trimmed "*" by decide)
  have horigins := origins_listed (buildSettings py environ)
  unfold buildSettings at horigins ⊢
  refine ⟨?_,?_,?_,?_,?_,horigins⟩
  · dsimp only
    split
    · assumption
    · decide
  · dsimp only
    exact orText_ne (by decide)
  · dsimp only
    exact orText_ne (by decide)
  · dsimp only
    exact orText_ne (by decide)
  · simp only [List.forall_mem_cons]
    exact ⟨strip_trimmed _,hmodel,strip_trimmed _,hlevel,strip_trimmed _,hcors,nofun⟩

/-- The first value that the file of the process gives to a variable and that is not blank. -/
def offered (file : Option (List Char)) (key : String) : Option String :=
  (given (file.elim [] fileLines) key).find? fun v => !isBlank v

/-- The settings are what the variables give that are not blank: those the process has, and
for the others the first values of the file. Only a host that is blank in both is empty
instead of the default one. The settings are valid. -/
theorem settings_used {file : Option (List Char)} {settings : Settings}
    (h : getSettings py environ file = .ok (settings,environ')) :
    let value := fun key => (visible environ key).or (offered file key)
    settings = settingsOf py value settings.apiHost ∧
      (∀ v, value "MAS_API_HOST" = some v → settings.apiHost = stripText v) ∧
      (value "MAS_API_HOST" = none →
        settings.apiHost = "127.0.0.1" ∨ settings.apiHost = "") ∧
      Valid settings := by
  unfold getSettings at h
  obtain ⟨loaded,hload,hsettings⟩ := Traverse.bind_ok_iff.mp h
  cases hsettings
  have hvalue : visible environ' = fun key => (visible environ key).or (offered file key) := by
    funext key
    unfold offered visible
    cases file with
    | none =>
      cases hload
      exact (Option.or_none).symm
    | some text =>
      rw [loadLines_get hload key]
      exact visible_resolve _ _
  have hbuild := build_visible py environ'
  obtain ⟨hhost,hdefault⟩ := host_visible environ' "MAS_API_HOST" "127.0.0.1" (by decide)
  dsimp only
  rw [hvalue] at hbuild hhost hdefault
  exact ⟨hbuild,hhost,hdefault,build_valid py environ'⟩

theorem settings_used_file :
    let settings := buildSettings ⟨Char.isAlphanum,4300,1000⟩
      [("MAS_API_HOST"," "),("MAS_LLM_MODEL","m")]
    settings.llmModel = "m" ∧ Valid settings := by
  have hload : loadFile [("MAS_API_HOST"," ")]
      (some "MAS_LLM_MODEL = 'm'\nMAS_LLM_MODEL=n".toList) =
      .ok [("MAS_API_HOST"," "),("MAS_LLM_MODEL","m")] := by decide +kernel
  have hsettings : getSettings ⟨Char.isAlphanum,4300,1000⟩ [("MAS_API_HOST"," ")]
      (some "MAS_LLM_MODEL = 'm'\nMAS_LLM_MODEL=n".toList) =
      .ok (buildSettings ⟨Char.isAlphanum,4300,1000⟩
          [("MAS_API_HOST"," "),("MAS_LLM_MODEL","m")],
        [("MAS_API_HOST"," "),("MAS_LLM_MODEL","m")]) := by
    unfold getSettings
    rw [hload]
    rfl
  obtain ⟨hbuild,_,_,hvalid⟩ := settings_used hsettings
  refine ⟨?_,hvalid⟩
  rw [hbuild]
  decide +kernel

end ManufacturingMas.Proofs.ProcessSettings
