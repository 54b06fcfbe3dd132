import MatchPlane.Offline.Keys
import MatchPlane.Platform.Builder
import MatchPlane.Platform.Live

/-!
# What an accepted registration is good for

The intake, the builder and the database check the same fields, each with patterns of its
own.  What follows compares them: when everything that the intake accepts can be built,
and when the offers of the release can be delivered.
-/

namespace MatchPlane.Platform

open MatchPlane.Library

/-! ## Accepted manifests -/

/-- What the intake found out about a manifest. -/
structure Admitted (manifest : Json) (slug packageId : String) : Prop where
  object : asObject manifest = some manifest
  apiVersion : manifest.text "apiVersion" = some "matchplane.subplatform/v1"
  rootApiVersion : manifest.text "rootApiVersion" = some "v1"
  id : manifest.text "id" = some packageId
  named : manifest.text "slug" = some slug
  pattern : isSlug slug = true
  assets : ∃ assets, manifest.get "assets" = some assets ∧ validateAssets assets = true ∧
    validateDependencyPolicy assets = .ok ()
  agent : ∀ agent, manifest.get "agent" = some agent → isFalsy agent = false →
    validateAgentManifest agent = true

theorem admitted_of_validateManifest {manifest : Json} {slug packageId : String}
    (h : validateManifest manifest slug packageId = .ok ()) :
    Admitted manifest slug packageId := by
  unfold validateManifest at h
  cases manifest with
  | object fields =>
      dsimp only at h
      rw [guard_eq_ok_iff] at h
      obtain ⟨_, h⟩ := h
      split at h
      · cases h
      · simp only [guard_eq_ok_iff, bind_eq_ok_iff] at h
        obtain ⟨hversions, hid, hslug, _, _, _, _, _, _, hassets, _, hpolicy, hagents⟩ := h
        simp only [validateAgents, guard_eq_ok_iff] at hagents
        simp only [ne_eq, not_or, not_not] at hversions hid hslug
        cases hfound : (Json.object fields).get "assets" with
        | none => simp [hfound] at hassets
        | some assets =>
            rw [hfound] at hassets hpolicy
            refine ⟨rfl, hversions.1, hversions.2, hid.2, hslug.2.2, ?_,
              ⟨assets, hfound, by simpa using hassets, hpolicy⟩, fun agent hagent => ?_⟩
            · have hpattern := hslug.1
              rw [Json.text] at hslug
              simpa [stringMatches, hslug.2.2] using hpattern
            · have hvalid := hagents.1
              rw [hagent] at hvalid
              simpa [isOptional] using hvalid
  | _ => cases h

/-! ## Paths -/

theorem mem_intersperse {α : Type} {x separator : α} {xs : List α} (h : x ∈ xs) :
    x ∈ xs.intersperse separator := by
  induction xs with
  | nil => cases h
  | cons first rest ih =>
      cases rest with
      | nil => exact h
      | cons second rest =>
          rw [List.intersperse_cons_cons]
          rcases List.mem_cons.mp h with rfl | hrest
          · simp
          · simp [ih hrest]

theorem infix_of_mem_splitOn {separator : Char} {segment text : List Char}
    (h : segment ∈ text.splitOn separator) : segment <:+: text := by
  have hinfix := List.infix_of_mem_flatten (@mem_intersperse _ _ [separator] _ h)
  have htext : [separator].intercalate (text.splitOn separator) = text :=
    List.intercalate_splitOn separator
  rw [List.intercalate] at htext
  rwa [htext] at hinfix

/-- The paths that the intake lets pass are safe, up to backslashes and idle segments. -/
theorem safeRelativePath_iff {path : String} (h : isRelative path = true) :
    safeRelativePath path = .ok path ↔ '\\' ∉ path.toList ∧
      ∀ segment ∈ path.toList.splitOn '/', segment ≠ [] ∧ segment ≠ ['.'] := by
  simp only [isRelative, decide_eq_true_eq] at h
  obtain ⟨hne, hhead, hdots, _⟩ := h
  have hempty : path ≠ "" := by
    rintro rfl
    exact hne rfl
  have hparent : ∀ segment ∈ path.toList.splitOn '/', segment ≠ ['.', '.'] := by
    rintro _ hsegment rfl
    exact hdots (infix_of_mem_splitOn hsegment)
  unfold safeRelativePath
  rw [guard_eq_ok_iff, guard_eq_ok_iff]
  simp only [hempty, hhead, or_self, not_false_eq_true, true_and, and_true, not_or,
    Bool.not_eq_true, List.any_eq_false, decide_eq_true_eq]
  constructor
  · rintro ⟨hslash, hsegments⟩
    exact ⟨hslash, fun segment hsegment => ⟨(hsegments segment hsegment).1,
      (hsegments segment hsegment).2.1⟩⟩
  · rintro ⟨hslash, hsegments⟩
    exact ⟨hslash, fun segment hsegment => ⟨(hsegments segment hsegment).1,
      (hsegments segment hsegment).2, hparent segment hsegment⟩⟩

/-! ## Commands -/

theorem flatten_splitOnP (blank : Char → Bool) (text : List Char) :
    (text.splitOnP blank).flatten = text.filter (!blank ·) := by
  induction text with
  | nil => simp
  | cons first rest ih =>
      rw [List.splitOnP_cons_eq_if_modifyHead]
      cases hblank : blank first with
      | true => simp [ih, hblank]
      | false =>
          have hne := List.splitOnP_ne_nil blank rest
          cases hsplit : rest.splitOnP blank with
          | nil => exact absurd hsplit hne
          | cons head tail =>
              rw [hsplit] at ih
              simp [hblank, ← ih]

/-- The words of a command spell it without its blanks. -/
theorem flatten_splitWhitespace (command : String) :
    ((splitWhitespace command).map String.toList).flatten =
      command.toList.filter (!isWhitespace ·) := by
  rw [← flatten_splitOnP]
  simp only [splitWhitespace, List.map_map]
  have hid : String.toList ∘ String.ofList = id := by
    funext chars
    simp
  rw [hid, List.map_id]
  induction command.toList.splitOnP isWhitespace with
  | nil => rfl
  | cons head tail ih =>
      by_cases hhead : head = []
      · simpa [hhead] using ih
      · simpa [hhead] using ih

theorem parse_iff {command : String} {template : BuildTemplate} :
    BuildTemplate.parse command = .ok template ↔ splitWhitespace command = template.command := by
  unfold BuildTemplate.parse
  dsimp only
  split_ifs with hbun hnpm hpnpm hyarn
  · rw [hbun]
    cases template <;> simp [BuildTemplate.command]
  · rw [hnpm]
    cases template <;> simp [BuildTemplate.command]
  · rw [hpnpm]
    cases template <;> simp [BuildTemplate.command]
  · rw [hyarn]
    cases template <;> simp [BuildTemplate.command]
  · cases template <;> simp [*]

/-- What trims to the command of `bun` is built by `bun`, if it is built at all. -/
theorem template_of_trimmed {command : String} {template : BuildTemplate}
    (htrim : JavaScript.trim command = "bun run build")
    (hparse : BuildTemplate.parse command = .ok template) : template = .bun := by
  obtain ⟨before, after, hblank, -, htext⟩ := JavaScript.trim_spec command
  have hspelled := flatten_splitWhitespace command
  rw [parse_iff.mp hparse, htext, htrim, List.filter_append, List.filter_append] at hspelled
  have hbun : ("bun run build".toList).filter (!isWhitespace ·) = "bunrunbuild".toList := by
    decide
  rw [hbun] at hspelled
  cases hbefore : before.filter (!isWhitespace ·) with
  | nil =>
      rw [hbefore] at hspelled
      cases template with
      | bun => rfl
      | npm => simp [BuildTemplate.command] at hspelled
      | pnpm => simp [BuildTemplate.command] at hspelled
      | yarn => simp [BuildTemplate.command] at hspelled
  | cons first rest =>
      have hmem : first ∈ before.filter (!isWhitespace ·) := by simp [hbefore]
      rw [List.mem_filter] at hmem
      have hfirst : first.toNat = 0xFEFF := by
        have hjs := hblank first hmem.1
        have hrust := hmem.2
        simp only [Bool.not_eq_true'] at hrust
        simpa [JavaScript.isBlank, hrust] using hjs
      rw [hbefore] at hspelled
      cases template with
      | bun => rfl
      | npm =>
          simp [BuildTemplate.command] at hspelled
          rw [← hspelled.1] at hfirst
          cases hfirst
      | pnpm =>
          simp [BuildTemplate.command] at hspelled
          rw [← hspelled.1] at hfirst
          cases hfirst
      | yarn =>
          simp [BuildTemplate.command] at hspelled
          rw [← hspelled.1] at hfirst
          cases hfirst

/-! ## Revisions -/

/-- The digits of a revision take one byte each and are never trimmed. -/
theorem hexDigit_visible {character : Char}
    (h : character.isDigit ∨ ('a' ≤ character.toLower ∧ character.toLower ≤ 'f')) :
    character.utf8Size = 1 ∧ JavaScript.isBlank character = false := by
  have hrange : 48 ≤ character.toNat ∧ character.toNat ≤ 102 := by
    rcases h with hdigit | ⟨hlow, hhigh⟩
    · simp only [Char.isDigit, Bool.and_eq_true, decide_eq_true_eq, UInt32.le_iff_toNat_le]
        at hdigit
      change 48 ≤ character.toNat ∧ character.toNat ≤ 57 at hdigit
      omega
    · rw [Char.le_def, UInt32.le_iff_toNat_le] at hlow hhigh
      change 97 ≤ character.toLower.toNat at hlow
      change character.toLower.toNat ≤ 102 at hhigh
      by_cases hupper : character.val ≥ 'A'.val ∧ character.val ≤ 'Z'.val
      · simp only [ge_iff_le, UInt32.le_iff_toNat_le] at hupper
        change 65 ≤ character.toNat ∧ character.toNat ≤ 90 at hupper
        omega
      · rw [Char.toLower, dif_neg hupper] at hlow hhigh
        omega
  constructor
  · rw [Char.utf8Size_eq_one_iff, UInt32.le_iff_toNat_le]
    change character.toNat ≤ 127
    omega
  · have hspace : isWhitespace character = false := by
      simp only [isWhitespace, List.mem_cons, List.not_mem_nil, or_false, decide_eq_false_iff_not]
      omega
    simp only [JavaScript.isBlank, hspace, Bool.false_eq_true, false_and, false_or,
      decide_eq_false_iff_not]
    omega

/-- Of the revisions that the intake lets pass, the builder takes those of 40 digits that
come without blanks. -/
theorem isFullGitRevision_iff {revision : String}
    (h : isRevision (JavaScript.trim revision) = true) :
    isFullGitRevision revision = true ↔
      JavaScript.trim revision = revision ∧ revision.length = 40 := by
  have hsize : (∀ character ∈ revision.toList, character.isDigit ∨
      ('a' ≤ character.toLower ∧ character.toLower ≤ 'f')) →
      revision.utf8ByteSize = revision.length := by
    intro hdigits
    rw [← String.utf8Len_toList, utf8Len_of_ascii fun character hcharacter =>
      (hexDigit_visible (hdigits character hcharacter)).1, String.length_toList]
  simp only [isFullGitRevision, decide_eq_true_eq, List.all_eq_true]
  constructor
  · rintro ⟨hforty, hdigits⟩
    have hvisible := fun character hcharacter =>
      (hexDigit_visible (hdigits character hcharacter)).2
    exact ⟨JavaScript.trim_eq_self hvisible, by rw [← hsize hdigits, hforty]⟩
  · rintro ⟨htrim, hforty⟩
    rw [htrim] at h
    simp only [isRevision, JavaScript.isHex, decide_eq_true_eq, List.all_eq_true] at h
    obtain ⟨_, _, _, hdigits⟩ := h
    exact ⟨by rw [hsize hdigits, hforty], hdigits⟩

/-! ## What can be built -/

/-- A text among the assets of a manifest. -/
def assetText (manifest : Json) (field : String) : Option String :=
  (manifest.get "assets").bind (·.text field)

/-- A registration whose source and manifest are written the way the builder reads them. -/
structure Buildable [SourceText] (request : RegistrationRequest) : Prop where
  revision : request.sourceKind = .git →
    JavaScript.trim request.pinnedRevision = request.pinnedRevision ∧
      request.pinnedRevision.length = 40
  git : request.sourceKind = .git → ∃ url,
    SourceText.parseUrl request.sourceLocator = some url ∧ url.scheme = "https"
  archive : request.sourceKind = .archive →
    (startsWith request.sourceLocator "upload://" = true ∧
      (SourceText.parseUuid (String.ofList (request.sourceLocator.toList.drop 9))).isSome) ∨
    (startsWith request.sourceLocator "https://" = true ∧
      (SourceText.parseUrl request.sourceLocator).isSome)
  directory : ∀ directory, assetText request.manifest "staticDirectory" = some directory →
    '\\' ∉ directory.toList ∧
      ∀ segment ∈ directory.toList.splitOn '/', segment ≠ [] ∧ segment ≠ ['.']
  command : ∀ command, assetText request.manifest "buildCommand" = some command →
    ∃ template : BuildTemplate, splitWhitespace command = template.command

theorem not_upload_and_https {text : String} (hupload : startsWith text "upload://" = true) :
    startsWith text "https://" = false := by
  unfold startsWith at hupload ⊢
  cases htext : text.toList with
  | nil => rfl
  | cons first rest =>
      rw [htext] at hupload
      have hfirst : first = 'u' := by
        have hlist : "upload://".toList = 'u' :: "pload://".toList := by decide
        rw [hlist, List.isPrefixOf_cons_cons, Bool.and_eq_true, beq_iff_eq] at hupload
        exact hupload.1.symm
      have hlist : "https://".toList = 'h' :: "ttps://".toList := by decide
      rw [hfirst, hlist, List.isPrefixOf_cons_cons]
      rfl

section Buildable

/-- Blanks around a URL change nothing that is read of it. -/
def SourceText.IgnoresBlanks [SourceText] : Prop :=
  ∀ text url trimmed, parseUrl text = some url →
    parseUrl (JavaScript.trim text) = some trimmed → url = trimmed

variable [SourceText] {config : BuilderConfig} {request : RegistrationRequest}

theorem materializeSource_iff (hblanks : SourceText.IgnoresBlanks)
    (hhost : ∀ url, SourceText.parseUrl request.sourceLocator = some url →
      validateAllowedHost url config.allowedGitHosts = .ok ())
    (hkind : request.sourceKind ≠ .remote) (h : validateSource request = .ok ()) :
    (∃ location, materializeSource config request = .ok location) ↔
      (request.sourceKind = .git →
        (JavaScript.trim request.pinnedRevision = request.pinnedRevision ∧
          request.pinnedRevision.length = 40) ∧
        ∃ url, SourceText.parseUrl request.sourceLocator = some url ∧ url.scheme = "https") ∧
      (request.sourceKind = .archive →
        (startsWith request.sourceLocator "upload://" = true ∧
          (SourceText.parseUuid (String.ofList (request.sourceLocator.toList.drop 9))).isSome) ∨
        (startsWith request.sourceLocator "https://" = true ∧
          (SourceText.parseUrl request.sourceLocator).isSome)) := by
  unfold validateSource at h
  dsimp only at h
  rw [guard_eq_ok_iff, guard_eq_ok_iff, bind_eq_ok_iff] at h
  obtain ⟨_, hrevision, _, hlocator, _⟩ := h
  rw [Bool.not_eq_false] at hrevision
  cases hsource : request.sourceKind with
  | git =>
      simp only [validateLocator, hsource, if_true] at hlocator
      simp only [materializeSource, hsource, forall_const, reduceCtorEq, false_implies, and_true]
      rw [← isFullGitRevision_iff hrevision]
      constructor
      · rintro ⟨location, hlocation⟩
        rw [guard_eq_ok_iff, Bool.not_eq_false] at hlocation
        refine ⟨hlocation.1, ?_⟩
        have hparsed := hlocation.2
        split at hparsed
        · cases hparsed
        · rename_i url hurl
          rw [guard_eq_ok_iff] at hparsed
          simp only [ne_eq, not_or, not_not] at hparsed
          exact ⟨url, hurl, hparsed.1.1⟩
      · rintro ⟨hfull, url, hurl, hscheme⟩
        split at hlocator
        · cases hlocator
        · rename_i trimmed htrimmed
          have hsame := hblanks _ _ _ hurl htrimmed
          subst hsame
          rw [guard_eq_ok_iff] at hlocator
          simp only [ne_eq, not_or, not_not] at hlocator
          refine ⟨.checkout url request.pinnedRevision, ?_⟩
          rw [guard_eq_ok_iff]
          refine ⟨by simp [hfull], ?_⟩
          rw [hurl]
          dsimp only
          rw [guard_eq_ok_iff, hhost url hurl]
          exact ⟨by simp [hscheme, hlocator.1.2.1, hlocator.1.2.2.1], rfl⟩
  | archive =>
      simp only [materializeSource, hsource, forall_const, reduceCtorEq, false_implies, true_and]
      by_cases hupload : startsWith request.sourceLocator "upload://" = true
      · rw [if_pos hupload]
        simp only [hupload, not_upload_and_https hupload, true_and, Bool.false_eq_true,
          false_and, or_false]
        cases SourceText.parseUuid (String.ofList (request.sourceLocator.toList.drop 9)) with
        | none => simp
        | some uploadId => simp
      · rw [if_neg hupload]
        simp only [hupload, Bool.false_eq_true, false_and, false_or]
        by_cases hhttps : startsWith request.sourceLocator "https://" = true
        · rw [if_pos hhttps]
          cases hurl : SourceText.parseUrl request.sourceLocator with
          | none => simp
          | some url =>
              dsimp only
              rw [hhost url hurl]
              simp only [hhttps, Option.isSome_some, and_self, iff_true]
              exact ⟨.download url, rfl⟩
        · rw [if_neg hhttps]
          simp [hhttps]
  | remote => exact absurd hsource hkind

omit [SourceText] in
theorem policy_of_accepted {assets : Json} {command : String} {template : BuildTemplate}
    (hpolicy : validateDependencyPolicy assets = .ok ())
    (hcommand : assets.text "buildCommand" = some command)
    (hparse : BuildTemplate.parse command = .ok template) :
    ∃ policy, DependencyPolicy.parse (assets.text "dependencyPolicy") template = .ok policy := by
  unfold validateDependencyPolicy at hpolicy
  cases hfield : assets.get "dependencyPolicy" with
  | none => exact ⟨.locked, by simp [Json.text, hfield, DependencyPolicy.parse]⟩
  | some value =>
      simp only [hfield] at hpolicy
      have htext : assets.text "dependencyPolicy" = value.asStr := by
        simp [Json.text, hfield]
      rw [htext]
      split at hpolicy
      · rename_i hlocked
        exact ⟨.locked, by simp [hlocked, DependencyPolicy.parse]⟩
      · rw [guard_eq_ok_iff, guard_eq_ok_iff] at hpolicy
        simp only [ne_eq, not_not] at hpolicy
        obtain ⟨hlatest, htrim, _⟩ := hpolicy
        rw [hcommand, Option.map_some, Option.some.injEq] at htrim
        have hbun := template_of_trimmed htrim hparse
        exact ⟨.latest, by simp [hlatest, hbun, DependencyPolicy.parse]⟩

omit [SourceText] in
theorem readManifest_iff
    (h : validateManifest request.manifest request.slug request.packageId = .ok ()) :
    (∃ manifest, readManifest request.manifest request = .ok manifest) ↔
      (∀ directory, assetText request.manifest "staticDirectory" = some directory →
        '\\' ∉ directory.toList ∧
          ∀ segment ∈ directory.toList.splitOn '/', segment ≠ [] ∧ segment ≠ ['.']) ∧
      (∀ command, assetText request.manifest "buildCommand" = some command →
        ∃ template : BuildTemplate, splitWhitespace command = template.command) := by
  have hadmitted := admitted_of_validateManifest h
  obtain ⟨assets, hassets, hvalid, hpolicy⟩ := hadmitted.assets
  simp only [validateAssets, stringMatches, decide_eq_true_eq, Option.any_eq_true] at hvalid
  obtain ⟨⟨directory, hdirectory, hrelative⟩, command, hcommand, _⟩ := hvalid
  rw [← Json.text] at hdirectory hcommand
  have hobject : asObject assets = some assets := by
    cases assets with
    | object fields => rfl
    | _ => cases hdirectory
  simp only [assetText, hassets, Option.bind_some, hdirectory, hcommand, Option.some.injEq,
    forall_eq']
  rw [← safeRelativePath_iff hrelative]
  simp only [readManifest, hadmitted.object, hadmitted.id, hadmitted.named, required,
    hadmitted.apiVersion, hadmitted.rootApiVersion, hassets, Option.bind_some, hobject, readAssets,
    hdirectory, hcommand, bind_eq_ok_iff, Except.ok.injEq, exists_eq_left', ne_eq,
    not_true_eq_false, or_self, if_false]
  constructor
  · rintro ⟨_, _, ⟨_, hsafe, template, hparse, _⟩, _⟩
    refine ⟨?_, template, parse_iff.mp hparse⟩
    rw [safeRelativePath, guard_eq_ok_iff, guard_eq_ok_iff] at hsafe ⊢
    exact ⟨hsafe.1, hsafe.2.1, rfl⟩
  · rintro ⟨hsafe, template, htemplate⟩
    have hparse := parse_iff.mpr htemplate
    obtain ⟨policy, hread⟩ := policy_of_accepted hpolicy hcommand hparse
    exact ⟨_, _, ⟨directory, hsafe, template, hparse, policy, hread, rfl⟩, rfl⟩

end Buildable

/-! ## What can be delivered -/

/-- The keys of jobs are those of manifests that have no colon. -/
theorem isJobServerKey_iff {key : String} (h : isServerKey key = true) :
    isJobServerKey key = true ↔ ':' ∉ key.toList := by
  unfold isServerKey isKey at h
  unfold isJobServerKey
  cases hkey : key.toList with
  | nil =>
      rw [hkey] at h
      cases h
  | cons first rest =>
      rw [hkey] at h
      simp only [decide_eq_true_eq, List.all_eq_true] at h ⊢
      obtain ⟨hfirst, _, hlength, hrest⟩ := h
      have hcolon : first ≠ ':' := by
        rintro rfl
        cases hfirst
      simp only [hfirst, hlength, true_and, List.mem_cons, not_or]
      constructor
      · intro hall
        refine ⟨hcolon.symm, fun hmem => ?_⟩
        have hnot := hall ':' hmem
        revert hnot
        decide
      · rintro ⟨_, hnot⟩ character hcharacter
        have hclass := hrest character hcharacter
        have hne : character ≠ ':' := by
          rintro rfl
          exact hnot hcharacter
        simp only [List.mem_cons, List.not_mem_nil, or_false] at hclass ⊢
        tauto

theorem isJobServerKey_of_isSlug {slug : String} (h : isSlug slug = true) :
    isJobServerKey slug = true := by
  unfold isSlug isKey at h
  unfold isJobServerKey
  cases hslug : slug.toList with
  | nil =>
      rw [hslug] at h
      cases h
  | cons first rest =>
      rw [hslug] at h
      simp only [decide_eq_true_eq, List.all_eq_true] at h ⊢
      obtain ⟨hfirst, _, hlength, hrest⟩ := h
      refine ⟨hfirst, by omega, fun character hcharacter => ?_⟩
      have hclass := hrest character hcharacter
      simp only [List.mem_cons, List.not_mem_nil, or_false]
      tauto

/-- Every path of a store can be the path of a job. -/
theorem isPlatformPath_of_isStorePath {path : String} (h : isStorePath path = true) :
    isPlatformPath path = true := by
  unfold isStorePath at h
  unfold isPlatformPath
  split at h
  · rename_i slug hpath
    simp only [decide_eq_true_eq, List.all_eq_true]
    unfold isSlug isKey at h
    rw [String.toList_ofList] at h
    cases slug with
    | nil => cases h
    | cons first rest =>
        simp only [decide_eq_true_eq, List.all_eq_true] at h
        obtain ⟨hfirst, _, hlength, hrest⟩ := h
        have hplain : ∀ character ∈ first :: rest, isAlphanumeric character = true ∨
            character = '-' := by
          intro character hcharacter
          rcases List.mem_cons.mp hcharacter with rfl | hlater
          · exact .inl hfirst
          · exact hrest character hlater
        have hslash : '/' ∉ first :: rest := by
          intro hmem
          have hclass := hplain '/' hmem
          revert hclass
          decide
        rw [List.splitOn_eq_singleton hslash]
        refine ⟨?_, ?_⟩
        · rw [← String.length_toList, hpath]
          simp only [List.length_cons]
          omega
        · simpa using hplain
  · cases h

/-- `jsonb` keeps the fields of objects, the elements of arrays, and texts. -/
structure Jsonb.Faithful [Jsonb] : Prop where
  get : ∀ value key, (Jsonb.stored value).get key = (value.get key).map Jsonb.stored
  string : ∀ text, Jsonb.stored (.string text) = .string text
  array : ∀ elements, Jsonb.stored (.array elements) = .array (elements.map Jsonb.stored)

/-- The server key that a manifest declares. -/
def declaredKey (manifest : Json) : Option String :=
  (manifest.get "agent").bind (·.text "mcpServerKey")

section Delivery

variable [Jsonb] {manifest : Json} {slug packageId : String}

omit [Jsonb] in
theorem get_of_isFalsy {agent : Json} (h : isFalsy agent = true) (key : String) :
    agent.get key = none := by
  cases agent with
  | object fields => cases h
  | _ => rfl

omit [Jsonb] in
/-- The section of the agent is empty, or its keys are valid. -/
theorem Admitted.agent_cases (h : Admitted manifest slug packageId) :
    (∀ key, (manifest.get "agent").bind (·.get key) = none) ∨
      ∃ agent, manifest.get "agent" = some agent ∧
        isAgentKey (agent.get "mcpServerKey") = true ∧
        isAgentList 64 (agent.get "mcpTools") = true := by
  cases hagent : manifest.get "agent" with
  | none => exact .inl fun _ => rfl
  | some agent =>
      cases hfalsy : isFalsy agent with
      | true => exact .inl fun key => get_of_isFalsy hfalsy key
      | false =>
          have hvalid := h.agent agent hagent hfalsy
          unfold validateAgentManifest at hvalid
          split at hvalid
          · simp only [decide_eq_true_eq] at hvalid
            exact .inr ⟨_, rfl, hvalid.2.2.2.2.2, hvalid.2.2.2.2.1⟩
          · cases hvalid

omit [Jsonb] in
theorem Admitted.isServerKey (h : Admitted manifest slug packageId) {key : String}
    (hkey : declaredKey manifest = some key) : isServerKey key = true := by
  unfold declaredKey Json.text at hkey
  rcases h.agent_cases with hnone | ⟨agent, hagent, hfield, _⟩
  · have hmissing := hnone "mcpServerKey"
    cases hagent : manifest.get "agent" with
    | none =>
        rw [hagent] at hkey
        cases hkey
    | some agent =>
        rw [hagent, Option.bind_some] at hkey hmissing
        rw [hmissing] at hkey
        cases hkey
  · rw [hagent, Option.bind_some] at hkey
    unfold isAgentKey at hfield
    split at hfield
    · rename_i hmissing
      rw [hmissing] at hkey
      cases hkey
    · rename_i other hother
      rw [hother] at hkey
      cases hkey
      exact hfield
    · cases hfield

/-- The server key that a stored manifest is read with. -/
theorem Admitted.manifestServerKey (h : Admitted manifest slug packageId)
    (hfaithful : Jsonb.Faithful) :
    manifestServerKey (Jsonb.stored manifest) = declaredKey manifest := by
  unfold Platform.manifestServerKey declaredKey Json.text
  rw [hfaithful.get]
  rcases h.agent_cases with hnone | ⟨agent, hagent, hfield, _⟩
  · have hmissing := hnone "mcpServerKey"
    cases hagent : manifest.get "agent" with
    | none => rfl
    | some agent =>
        rw [hagent, Option.bind_some] at hmissing
        simp [Json.fieldText, hfaithful.get, hmissing]
  · rw [hagent, Option.map_some, Option.bind_some, Option.bind_some, Json.fieldText,
      hfaithful.get]
    unfold isAgentKey at hfield
    split at hfield
    · rename_i hmissing
      simp [hmissing]
    · rename_i key hkey
      have hne : key ≠ "" := by
        rintro rfl
        cases hfield
      simp [hkey, hfaithful.string, Json.asStr, Option.filter, hne]
    · cases hfield

/-- The tools that a stored manifest is read with. -/
theorem Admitted.mcpTools (h : Admitted manifest slug packageId) (hfaithful : Jsonb.Faithful) :
    agentStrings (Jsonb.stored manifest) "mcpTools" = agentStrings manifest "mcpTools" := by
  unfold agentStrings
  rw [hfaithful.get]
  rcases h.agent_cases with hnone | ⟨agent, hagent, _, hfield⟩
  · have hmissing := hnone "mcpTools"
    cases hagent : manifest.get "agent" with
    | none => rfl
    | some agent =>
        rw [hagent, Option.bind_some] at hmissing
        simp [hfaithful.get, hmissing]
  · rw [hagent, Option.map_some, Option.bind_some, Option.bind_some, hfaithful.get]
    unfold isAgentList at hfield
    split at hfield
    · rename_i elements htools
      simp only [decide_eq_true_eq, List.all_eq_true, Option.any_eq_true] at hfield
      rw [htools]
      simp only [Option.map_some, hfaithful.array, strings, Option.getD_some, List.filterMap_map]
      refine List.filterMap_congr fun element helement => ?_
      obtain ⟨text, htext, _⟩ := hfield.2 element helement
      cases element with
      | string value => simp [hfaithful.string]
      | _ => cases htext
    · cases hfield

end Delivery

/-- What a registration keeps of its request for good. -/
def Registration.content (row : Registration) : String × Json := (row.slug, row.manifest)

/-! ## What registrations keep -/

section Contents

variable {t t' t'' : Table registrations}

/-- The registrations of a table are in another one with their contents. -/
def KeepsContents (t t' : Table registrations) : Prop :=
  ∀ id row, t.lookup id = some row →
    ∃ row', t'.lookup id = some row' ∧ row'.content = row.content

theorem KeepsContents.refl : KeepsContents t t := fun _ row hlookup => ⟨row, hlookup, rfl⟩

theorem KeepsContents.trans (h : KeepsContents t t') (h' : KeepsContents t' t'') :
    KeepsContents t t'' := by
  intro id row hlookup
  obtain ⟨row', hlookup', hcontent'⟩ := h id row hlookup
  obtain ⟨row'', hlookup'', hcontent''⟩ := h' id row' hlookup'
  exact ⟨row'', hlookup'', hcontent''.trans hcontent'⟩

theorem KeepsContents.of_written {old new : Registration} (hwritten : Table.Written t t' old new)
    (hcontent : new.content = old.content) : KeepsContents t t' := by
  intro id row hlookup
  have hlookup' := hwritten.lookup id
  split at hlookup'
  · rename_i hid
    rw [hid, hwritten.stored, Option.some.injEq] at hlookup
    exact ⟨new, hlookup', by rw [hcontent, hlookup]⟩
  · exact ⟨row, hlookup'.trans hlookup, rfl⟩

theorem KeepsContents.of_inserted {row : Registration} (hrows : t'.rows = t.rows ++ [row]) :
    KeepsContents t t' :=
  fun _ other hlookup => ⟨other, Table.lookup_inserted_of_some hrows hlookup, rfl⟩

theorem KeepsContents.of_disabled {selects : Registration → Bool}
    (hrows : t'.rows = t.rows.map fun row => if selects row then row.disable else row) :
    KeepsContents t t' := by
  intro id row hlookup
  have hlookup' := Table.lookup_updatedAll hrows (by intro row; split <;> rfl) id
  rw [hlookup, Option.map_some] at hlookup'
  refine ⟨_, hlookup', ?_⟩
  split <;> rfl

end Contents

section Steps

variable [Jsonb] {db db' : PlatformDatabase}

theorem PlatformMove.keepsContents {action : PlatformAction} (h : PlatformMove db action db') :
    KeepsContents db.registrations db'.registrations := by
  cases h with
  | aside _ _ _ hregistrations =>
      rw [hregistrations]
      exact .refl
  | enrolled => exact .refl
  | linked _ _ _ _ _ _ _ hreconciled =>
      rw [hreconciled.records.1]
      exact .refl
  | probed _ _ _ _ _ _ _ hreconciled =>
      rw [hreconciled.records.1]
      exact .refl
  | promoted _ _ _ _ _ _ _ _ _ _ _ hreconciled =>
      rw [hreconciled.records.1]
      exact .refl
  | federated _ _ _ _ _ _ _ _ _ _ hrows hreprojected _ hreconciled =>
      rw [hreconciled.records.1, hreprojected.records.1]
      exact .of_inserted hrows
  | revoked _ _ _ _ _ _ _ hreconciled =>
      rw [hreconciled.records.1]
      exact .refl
  | disabled _ _ _ _ _ _ _ _ _ _ _ hreconciled hdisabled hreprojected =>
      rw [hreprojected.records.1]
      rw [hreconciled.records.1] at hdisabled
      exact .of_written hdisabled rfl
  | registered _ _ _ _ _ _ hrows => exact .of_inserted hrows
  | claimed _ _ _ _ _ hwritten => exact .of_written hwritten rfl
  | built _ _ _ _ _ _ hwritten => exact .of_written hwritten rfl
  | failed _ _ _ _ _ _ _ _ _ hwritten => 
      exact .of_written hwritten rfl
  | renewed => exact .refl
  | activated _ _ _ _ _ _ _ _ _ _ _ _ _ _ hwritten hreprojected hrows =>
      have hfirst := KeepsContents.of_written hwritten rfl
      rw [hreprojected.records.1] at hrows
      exact hfirst.trans (.of_disabled hrows)
  | changed => exact .refl
  | profiled => exact .refl
  | opened => exact .refl

/-- A registration has the slug and the manifest of its request as long as it is there. -/
theorem PlatformDatabase.keepsContents_run (h : Consistent db) (actions : List PlatformAction) :
    KeepsContents db.registrations (db.run actions).registrations := by
  induction actions generalizing db with
  | nil => exact .refl
  | cons action actions ih =>
      have hstep : KeepsContents db.registrations (db.step action).registrations := by
        rcases db.step_cases h action with ⟨_, hsame⟩ | ⟨_, hmoved⟩
        · rw [hsame]
          exact .refl
        · exact hmoved.2.keepsContents
      exact hstep.trans (ih (h.step action))

theorem PlatformDatabase.lookup_of_registered (h : Consistent db) {storeId : StoreId}
    {request : RegistrationRequest} (haccepted : db.accepts (.register storeId request) = true)
    (actions : List PlatformAction) : ∃ row,
      ((db.step (.register storeId request)).run actions).registrations.lookup
        request.registrationId = some row ∧
      row.content = (request.slug, Jsonb.stored request.manifest) := by
  have hensures : Ensures (PlatformDatabase.transaction (.register storeId request)) whatever db
      fun _ db' => Consistent db' ∧ ∃ row,
        db'.registrations.lookup request.registrationId = some row ∧
        row.content = (request.slug, Jsonb.stored request.manifest) := by
    rw [PlatformDatabase.transaction]
    refine ensures_discard ((ensures_registerPackage_rows h request).mono (fun _ h => h) ?_)
    rintro _ _ ⟨_, _, hconsistent, _, registrations', hrows, rfl⟩
    have hlookup := Table.lookup_inserted hrows request.registrationId
    exact ⟨hconsistent, _, hlookup.trans (if_pos rfl), rfl⟩
  rcases committed_cases hensures with ⟨hrefused, _⟩ | ⟨_, _, hconsistent, row, hlookup, hcontent⟩
  · rw [PlatformDatabase.accepts] at haccepted
    cases haccepted.symm.trans hrefused
  · obtain ⟨row', hlookup', hcontent'⟩ := keepsContents_run hconsistent actions _ _ hlookup
    exact ⟨row', hlookup', hcontent'.trans hcontent⟩

end Steps

section Targets

variable [Jsonb] {db : PlatformDatabase} {tenantId : TenantId} {domainId : DomainId}
  {offerId : MarketplaceOfferId} {version : Int} {target : ProjectionTarget}

/-- The target of an offer is the release that its store shows, under the path of the store. -/
theorem offerTarget_spec (h : db.offerTarget tenantId domainId offerId version = some target) :
    0 < target.canonicalVersion ∧ ∃ registration path,
      db.registrations.lookup registration.id = some registration ∧
      target.registrationId = some registration.id ∧ target.platformPath = some path ∧
      isStorePath path = true ∧ target.mcpServerKey = some registration.serverKey := by
  simp only [PlatformDatabase.offerTarget, Option.bind_eq_bind, Option.bind_eq_some_iff,
    Option.filter_eq_some_iff, Option.pure_def, Option.some.injEq] at h
  obtain ⟨offer, ⟨hoffer, _⟩, store, _, row, hrow, registration, ⟨hcurrent, _⟩, rfl⟩ := h
  simp only [PlatformDatabase.currentRelease, Option.filter_eq_some_iff,
    Option.bind_eq_some_iff] at hcurrent
  obtain ⟨⟨id, _, hlookup⟩, _⟩ := hcurrent
  have hid : registration.id = id := Table.key_of_lookup hlookup
  subst hid
  have hversion : 0 < offer.version := by
    have hcheck := Table.check_of_lookup hoffer
    simp only [marketplaceOffers, decide_eq_true_eq] at hcheck
    exact hcheck.2.2.2.2.1
  exact ⟨hversion, registration, row.path, hlookup, rfl, rfl,
    db.aliases.valid.checked row (List.mem_of_find?_eq_some hrow), rfl⟩

variable {manifest : Json} {slug packageId : String} {registration : Registration}

/-- The job of a release can be stored exactly when its server key has no colon. -/
theorem Admitted.check_job (h : Admitted manifest slug packageId) (hfaithful : Jsonb.Faithful)
    (htarget : db.offerTarget tenantId domainId offerId version = some target)
    (hlookup : db.registrations.lookup registration.id = some registration)
    (hregistration : target.registrationId = some registration.id)
    (hcontent : registration.content = (slug, Jsonb.stored manifest)) (fresh : FreshJobs) :
    projectionJobs.check (target.job fresh) = true ↔
      ∀ key, declaredKey manifest = some key → ':' ∉ key.toList := by
  obtain ⟨hversion, shown, path, hshown, hid, hpath, hstorePath, hkey⟩ :=
    offerTarget_spec htarget
  rw [hid, Option.some.injEq] at hregistration
  rw [hregistration, hlookup, Option.some.injEq] at hshown
  subst hshown
  simp only [Registration.content, Prod.mk.injEq] at hcontent
  obtain ⟨hslug, hmanifest⟩ := hcontent
  have hserver : registration.serverKey = (declaredKey manifest).getD slug := by
    rw [Registration.serverKey, hmanifest, h.manifestServerKey hfaithful, hslug]
  have hcheck : projectionJobs.check (target.job fresh) = true ↔
      isJobServerKey registration.serverKey = true := by
    simp [projectionJobs, ProjectionTarget.job, ProjectionJob.hasDestinationShape, hid, hpath,
      hkey, hversion, isPlatformPath_of_isStorePath hstorePath]
  rw [hcheck, hserver]
  cases hdeclared : declaredKey manifest with
  | none => simp [isJobServerKey_of_isSlug h.pattern]
  | some key =>
      rw [Option.getD_some, isJobServerKey_iff (h.isServerKey hdeclared)]
      simp

/-- A change of an offer is refused whose job cannot be stored. -/
theorem ensures_enqueue_refused {fresh : FreshJobs}
    (htarget : db.offerTarget tenantId domainId offerId version = some target)
    (hcheck : projectionJobs.check (target.job fresh) = false) :
    Ensures (enqueueMarketplaceOfferProjection fresh tenantId domainId offerId version)
      (· = .constraint) db fun _ _ => False := by
  unfold enqueueMarketplaceOfferProjection
  rw [ensures_bind, ensures_get, htarget]
  dsimp only
  rw [ensures_bind, supersedeJobs, ensures_on]
  refine Table.ensures_updateAll_rows rfl fun jobs' _ => ?_
  unfold insertJob
  rw [ensures_bind, ensures_get]
  simp [hcheck]

end Targets

section Usable

variable [Jsonb] [SourceText]

omit [Jsonb] [SourceText] in
theorem answered_eq_ok_iff {α : Type} {x : Except String α} {value : α} :
    answered x = .ok value ↔ x = .ok value := by
  cases x <;> simp [answered]

omit [Jsonb] in
theorem accept_spec {intake : Intake} {scopes : List String} (h : intake.accept = .ok scopes) :
    validateManifest intake.request.manifest intake.request.slug intake.request.packageId =
        .ok () ∧
      intake.request.sourceKind ≠ .remote ∧ validateSource intake.request = .ok () := by
  unfold Intake.accept at h
  simp only [bind_eq_ok_iff, answered_eq_ok_iff, guard_eq_ok_iff] at h
  obtain ⟨_, hmanifest, hkind, _, hsource, _⟩ := h
  exact ⟨hmanifest, hkind, hsource⟩

/-- An accepted package can be built exactly when it is written the way the builder reads it,
and the offers of its release can be delivered exactly when its server key has no colon. -/
theorem accepted_usable_iff {intake : Intake} {scopes : List String} {config : BuilderConfig}
    (haccept : intake.accept = .ok scopes) (hblanks : SourceText.IgnoresBlanks)
    (hfaithful : Jsonb.Faithful)
    (hhost : ∀ url, SourceText.parseUrl intake.request.sourceLocator = some url →
      validateAllowedHost url config.allowedGitHosts = .ok ()) :
    ((∃ location, materializeSource config intake.request = .ok location) ∧
        (∃ manifest, readManifest intake.request.manifest intake.request = .ok manifest) ↔
      Buildable intake.request) ∧
    ∀ (start db : PlatformDatabase) (storeId : StoreId) (actions : List PlatformAction)
      (tenantId : TenantId) (domainId : DomainId) (offerId : MarketplaceOfferId)
      (version : Int) (target : ProjectionTarget), start.Reachable →
      start.accepts (.register storeId intake.request) = true →
      db = (start.step (.register storeId intake.request)).run actions →
      db.offerTarget tenantId domainId offerId version = some target →
      target.registrationId = some intake.request.registrationId →
      ∀ fresh, (projectionJobs.check (target.job fresh) = true ↔
          ∀ key, declaredKey intake.request.manifest = some key → ':' ∉ key.toList) ∧
        (projectionJobs.check (target.job fresh) = false → Ensures
          (enqueueMarketplaceOfferProjection fresh tenantId domainId offerId version)
          (· = .constraint) db fun _ _ => False) := by
  obtain ⟨hmanifest, hkind, hsource⟩ := accept_spec haccept
  refine ⟨?_, ?_⟩
  · rw [materializeSource_iff hblanks hhost hkind hsource, readManifest_iff hmanifest]
    constructor
    · rintro ⟨⟨hgit, harchive⟩, hdirectory, hcommand⟩
      exact ⟨fun h => (hgit h).1, fun h => (hgit h).2, harchive, hdirectory, hcommand⟩
    · rintro ⟨hrevision, hgit, harchive, hdirectory, hcommand⟩
      exact ⟨⟨fun h => ⟨hrevision h, hgit h⟩, harchive⟩, hdirectory, hcommand⟩
  · rintro start _ storeId actions tenantId domainId offerId version target hreachable haccepted
      rfl htarget hregistration fresh
    obtain ⟨row, hlookup, hcontent⟩ :=
      PlatformDatabase.lookup_of_registered hreachable.consistent haccepted actions
    have hid : row.id = intake.request.registrationId := Table.key_of_lookup hlookup
    rw [← hid] at hlookup hregistration
    exact ⟨(admitted_of_validateManifest hmanifest).check_job hfaithful htarget hlookup
      hregistration hcontent fresh, ensures_enqueue_refused htarget⟩

end Usable

/-! ## A shop with a catalog -/

def catalogManifest (serverKey : String) : Json :=
  .object [("apiVersion", .string "matchplane.subplatform/v1"), ("rootApiVersion", .string "v1"),
    ("id", .string "shop-package"), ("slug", .string "shop"), ("displayName", .string "Shop"),
    ("entry", .string "index.html"), ("routes", .array [.string "/shop"]),
    ("capabilities", .array []), ("requiredScopes", .array []),
    ("assets", .object [("staticDirectory", .string "dist"),
      ("buildCommand", .string "bun run build")]),
    ("agent", .object [("protocol", .string "matchplane.agent/v1"), ("stages", .array []),
      ("skills", .array []), ("mcpTools", .array [.string "catalog.upsert"]),
      ("mcpServerKey", .string serverKey)])]

def catalogRequest (serverKey : String) : RegistrationRequest :=
  { shopRequest ⟨1⟩ shopDigest with
    pinnedRevision := String.ofList (List.replicate 40 'a')
    manifest := catalogManifest serverKey }

def catalogIntake (serverKey : String) : Intake := ⟨catalogRequest serverKey, none⟩

/-- Only the repository of the shop is known. -/
@[reducible] def shopSource : SourceText where
  parseUrl := fun text =>
    if JavaScript.trim text = "https://example.com/shop.git" then
      some ⟨"https", "", "", "example.com"⟩
    else none
  parseUuid := fun _ => none

def shopBuilder : BuilderConfig := ⟨["example.com"]⟩

def catalogOffer : MarketplaceOffer where
  id := ⟨1⟩
  tenantId := ⟨1⟩
  domainId := ⟨1⟩
  supplyPartyId := ⟨1⟩
  storeId := some 1
  assetId := none
  externalKey := "offer"
  displayName := "Offer"
  attributes := .object []
  terms := .object []
  availableQuantity := none
  status := .active
  publishedAt := none
  expiresAt := none
  version := 1

/-- The shop is built and activated, and has an offer. -/
def catalogActions [Jsonb] (serverKey : String) : List PlatformAction := [
  .claimBuild ⟨1⟩ ⟨60, 2, ⟨1⟩, fun _ => false⟩,
  .completeBuild ⟨1⟩ ⟨⟨1⟩, ⟨1⟩, shopDigest, none, none, none, none⟩,
  .activate ⟨1⟩ shopFresh ⟨⟨1⟩, shopDigest⟩
    { (catalogRequest serverKey).row 1 with
      state := .ready
      buildDigest := some shopDigest },
  .surround .empty [(⟨1⟩, ⟨1⟩)] ⟨[catalogOffer], by decide +kernel⟩ .empty]

def catalogMarket [Jsonb] (serverKey : String) : PlatformDatabase :=
  (shopMarket.step (.register ⟨1⟩ (catalogRequest serverKey))).run (catalogActions serverKey)

def catalogTarget (serverKey : String) : ProjectionTarget :=
  ⟨⟨1⟩, ⟨1⟩, ⟨1⟩, ⟨1⟩, 1, some ⟨1⟩, some "/shop", some serverKey⟩

/-- A shop whose server key has a colon is accepted, but cannot change its offers. -/
theorem colon_key_undeliverable :
    @Intake.accept shopSource (catalogIntake "shop:catalog") = .ok [] ∧
      @PlatformDatabase.accepts plainJsonb shopMarket
        (.register ⟨1⟩ (catalogRequest "shop:catalog")) = true ∧
      @PlatformDatabase.offerTarget plainJsonb (@catalogMarket plainJsonb "shop:catalog")
        ⟨1⟩ ⟨1⟩ ⟨1⟩ 1 = some (catalogTarget "shop:catalog") ∧
      ((catalogTarget "shop:catalog").job shopFresh).hasDestinationShape = false ∧
      succeeds (@enqueueMarketplaceOfferProjection plainJsonb shopFresh ⟨1⟩ ⟨1⟩ ⟨1⟩ 1)
        (@catalogMarket plainJsonb "shop:catalog") = false := by
  decide +kernel

theorem shopSource_ignoresBlanks : @SourceText.IgnoresBlanks shopSource := by
  intro text url trimmed hurl htrimmed
  simp only [SourceText.parseUrl, Option.ite_none_right_eq_some, Option.some.injEq]
    at hurl htrimmed
  exact hurl.2.symm.trans htrimmed.2

theorem plainJsonb_faithful : @Jsonb.Faithful plainJsonb :=
  @Jsonb.Faithful.mk plainJsonb (fun value key => (congrFun Option.map_id (value.get key)).symm)
    (fun _ => rfl) fun elements => congrArg Json.array (List.map_id elements).symm

theorem shop_buildable : @Buildable shopSource (catalogRequest "catalog") := by
  refine @Buildable.mk shopSource _ (fun _ => by decide +kernel)
    (fun _ => ⟨⟨"https", "", "", "example.com"⟩, by decide +kernel, rfl⟩)
    (fun harchive => nomatch harchive) (fun directory hdirectory => ?_) fun command hcommand => ?_
  · cases hdirectory
    decide +kernel
  · cases hcommand
    exact ⟨.bun, by decide +kernel⟩

/-- A shop whose server key has no colon is built, and changes its offers. -/
theorem catalog_usable :
    ((∃ location, @materializeSource shopSource shopBuilder (catalogRequest "catalog") =
        .ok location) ∧
      ∃ manifest, readManifest (catalogManifest "catalog") (catalogRequest "catalog") =
        .ok manifest) ∧
    projectionJobs.check ((catalogTarget "catalog").job shopFresh) = true := by
  obtain ⟨hbuilt, hdelivered⟩ := @accepted_usable_iff plainJsonb shopSource
    (catalogIntake "catalog") [] shopBuilder (by decide +kernel) shopSource_ignoresBlanks
    plainJsonb_faithful (fun url hurl => by cases hurl; decide +kernel)
  refine ⟨hbuilt.mpr shop_buildable, ?_⟩
  have hjob := (hdelivered shopMarket _ ⟨1⟩ (@catalogActions plainJsonb "catalog") ⟨1⟩ ⟨1⟩ ⟨1⟩ 1
    (catalogTarget "catalog") ⟨shopMarket, [], shopMarket_initial, rfl⟩ (by decide +kernel) rfl
    (by decide +kernel) (by decide +kernel) shopFresh).1
  refine hjob.mpr fun key hkey => ?_
  cases hkey
  decide

end MatchPlane.Platform
