import Marginalia.Generation
import Marginalia.Proofs.FileTree.Storing
import Marginalia.Proofs.Source.Collection

/-
  This file shows that a run is all or nothing, but for one
  case. It stops exactly by the first of its faults, and then
  no file has changed; or it goes through, and then only the
  file at the output path may have changed, which holds the
  document. A document without an encoding, though, is found
  out only when its file has been opened, and leaves it empty.
  All of this holds for every engine of templates.

  Key definitions include:
    * `Generation.Collects`
    * `Generation.Stops`
    * `Generation.Ends`

  Main results:
    * `Generation.modules_eq_error_iff`
    * `Generation.compose_eq_error_iff`
    * `Generation.ends_run`
    * `Generation.outcome_eq_error_iff_stops`
    * `Generation.run_stores_or_stops`
-/

namespace Marginalia

namespace Generation

variable {engine : Engine}
variable {tree : FileTree}
variable {settings : Settings}

------------------------------------------------------------
-- Faults of a Run
------------------------------------------------------------

/-
  All sources give their modules: the named files are there,
  and each source, in the order of collection, is parsed.
-/
structure Collects
    (tree : FileTree)
    (settings : Settings)
    (modules : List ModuleDoc) : Prop where
  found : Source.AllFound tree settings
  parsed :
    (Source.sought tree settings).map (Source.parse tree) =
      modules.map .ok

/-
  What stops a run, in this order: settings that allow no
  document, the first named file that is missing, the first
  source whose bytes cannot be decoded, a template of its own
  that gives no document, an output path that cannot be
  written to, and a document without an encoding.
-/
inductive Stops
    (engine : Engine)
    (tree : FileTree)
    (settings : Settings) : Fault → Prop where
  | settings
      {fault : Settings.Fault}
      (hCheck : settings.check = .error fault) :
      Stops engine tree settings (.settings fault)
  | sourceNotFound
      {before after : List Text}
      {name : Text}
      (hCheck : settings.check = .ok ())
      (hFiles : settings.files = before ++ name :: after)
      (hBefore :
        ∀ earlier ∈ before,
          tree.isFile (Source.ofName settings earlier).path = true)
      (hName :
        tree.isFile (Source.ofName settings name).path = false) :
      Stops engine tree settings
        (.sourceNotFound (Source.ofName settings name).fileName)
  | sourceUnreadable
      {before after : List Source}
      {source : Source}
      {broken : Utf8.Fault}
      (hCheck : settings.check = .ok ())
      (hFound : Source.AllFound tree settings)
      (hSources :
        Source.sought tree settings = before ++ source :: after)
      (hBefore :
        ∀ earlier ∈ before, ∃ text,
          tree.readText earlier.path = .ok text)
      (hSource :
        tree.readText source.path = .error (.decoding broken)) :
      Stops engine tree settings
        (.sourceUnreadable source.fileName source.path
          (.decoding broken))
  | template
      {modules : List ModuleDoc}
      {directory : Path}
      {fault : TemplateFault}
      (hCheck : settings.check = .ok ())
      (hModules : Collects tree settings modules)
      (hDirectory : settings.templateDirectory = some directory)
      (hEngine :
        engine tree directory (context settings modules) =
          .error fault) :
      Stops engine tree settings (.template fault)
  | outputBlocked
      {modules : List ModuleDoc}
      {text : Option Text}
      {fault : AccessFault}
      (hCheck : settings.check = .ok ())
      (hModules : Collects tree settings modules)
      (hText : rendered engine tree settings modules = .ok text)
      (hStore :
        (tree.store settings.outputPath (fileBytes text)).1 =
          .error fault) :
      Stops engine tree settings (.access settings.outputPath fault)
  | unencodable
      {modules : List ModuleDoc}
      (hCheck : settings.check = .ok ())
      (hModules : Collects tree settings modules)
      (hText : rendered engine tree settings modules = .ok none)
      (hStore : (tree.store settings.outputPath []).1 = .ok ()) :
      Stops engine tree settings .unencodable

------------------------------------------------------------
-- Stages of a Run
------------------------------------------------------------

/- The modules are those of all sources that are asked for. -/
theorem modules_eq_ok_iff
    {found : List ModuleDoc} :
    modules tree settings = .ok found ↔
      Collects tree settings found := by
  unfold modules
  rw [Attempts.bind_eq_ok_iff]
  constructor
  · rintro ⟨sources, hSources, hParsed⟩
    rcases Source.collect_eq_ok_iff.mp hSources with ⟨hFound, rfl⟩
    exact ⟨hFound, Attempts.mapM_eq_ok_iff.mp hParsed⟩
  · rintro ⟨hFound, hParsed⟩
    exact ⟨_, Source.collect_eq_ok_iff.mpr ⟨hFound, rfl⟩,
      Attempts.mapM_eq_ok_iff.mpr hParsed⟩

/-
  Reading stops at the first named file that is missing, or
  else at the first source that cannot be decoded.
-/
theorem modules_eq_error_iff
    (hTree : tree.Lawful)
    {fault : Fault} :
    modules tree settings = .error fault ↔
      (∃ before name after,
        settings.files = before ++ name :: after ∧
          (∀ earlier ∈ before,
            tree.isFile (Source.ofName settings earlier).path =
              true) ∧
          tree.isFile (Source.ofName settings name).path = false ∧
          fault =
            .sourceNotFound (Source.ofName settings name).fileName) ∨
      Source.AllFound tree settings ∧
        ∃ before source after broken,
          Source.sought tree settings = before ++ source :: after ∧
            (∀ earlier ∈ before, ∃ text,
              tree.readText earlier.path = .ok text) ∧
            tree.readText source.path = .error (.decoding broken) ∧
            fault =
              .sourceUnreadable source.fileName source.path
                (.decoding broken) := by
  have hFile
      (hFound : Source.AllFound tree settings)
      {before after : List Source}
      {source : Source}
      (hSplit :
        Source.sought tree settings = before ++ source :: after) :
      tree.isFile source.path = true := by
    apply Source.isFile_of_mem_sought hTree hFound
    rw [hSplit]
    exact List.mem_append_cons_self
  unfold modules
  rw [Attempts.bind_eq_error_iff, Source.collect_eq_error_iff]
  apply or_congr Iff.rfl
  constructor
  · rintro ⟨sources, hSources, hParsed⟩
    rcases Source.collect_eq_ok_iff.mp hSources with ⟨hFound, rfl⟩
    rcases Attempts.mapM_eq_error_iff.mp hParsed with
      ⟨before, source, after, hSplit, hBefore, hSource⟩
    rcases (Source.parse_eq_error_iff (hFile hFound hSplit)).mp
      hSource with ⟨broken, hText, hFault⟩
    refine ⟨hFound, before, source, after, broken, hSplit, ?_, hText,
      hFault⟩
    intro earlier hEarlier
    exact Source.exists_parse_iff.mp (hBefore earlier hEarlier)
  · rintro ⟨hFound, before, source, after, broken, hSplit, hBefore,
      hText, hFault⟩
    refine ⟨_, Source.collect_eq_ok_iff.mpr ⟨hFound, rfl⟩, ?_⟩
    apply Attempts.mapM_eq_error_iff.mpr
    refine ⟨before, source, after, hSplit, ?_, ?_⟩
    · intro earlier hEarlier
      exact Source.exists_parse_iff.mpr (hBefore earlier hEarlier)
    · exact (Source.parse_eq_error_iff (hFile hFound hSplit)).mpr
        ⟨broken, hText, hFault⟩

/- Only a template of its own can stop the document. -/
theorem rendered_eq_error_iff
    {found : List ModuleDoc}
    {fault : Fault} :
    rendered engine tree settings found = .error fault ↔
      ∃ directory cause,
        settings.templateDirectory = some directory ∧
          engine tree directory (context settings found) =
            .error cause ∧
          fault = .template cause := by
  unfold rendered
  cases settings.templateDirectory with
  | none => simp
  | some directory =>
      cases hEngine :
        engine tree directory (context settings found) with
      | ok document => simp [hEngine]
      | error cause => simp [hEngine, eq_comm]

/- A document is composed of all modules that are collected. -/
theorem compose_eq_ok_iff
    {found : List ModuleDoc}
    {text : Option Text} :
    compose engine tree settings = .ok (found, text) ↔
      settings.check = .ok () ∧
        Collects tree settings found ∧
        rendered engine tree settings found = .ok text := by
  unfold compose
  cases settings.check with
  | error cause =>
      constructor
      · rintro ⟨⟩
      · rintro ⟨⟨⟩, _⟩
  | ok passed =>
      simp only [Attempts.bind_eq_ok_iff, modules_eq_ok_iff]
      constructor
      · rintro ⟨_, _, _, hModules, _, hText, ⟨⟩⟩
        exact ⟨trivial, hModules, hText⟩
      · rintro ⟨_, hModules, hText⟩
        exact ⟨passed, rfl, found, hModules, text, hText, rfl⟩

/- A document is not composed by the first stage that fails. -/
theorem compose_eq_error_iff
    {fault : Fault} :
    compose engine tree settings = .error fault ↔
      (∃ cause,
        settings.check = .error cause ∧ fault = .settings cause) ∨
      settings.check = .ok () ∧
        (modules tree settings = .error fault ∨
          ∃ found,
            Collects tree settings found ∧
              rendered engine tree settings found = .error fault) := by
  unfold compose
  cases settings.check with
  | error cause =>
      constructor
      · rintro ⟨⟩
        exact .inl ⟨cause, rfl, rfl⟩
      · rintro (⟨_, ⟨⟩, rfl⟩ | ⟨⟨⟩, _⟩)
        rfl
  | ok passed =>
      simp only [Attempts.bind_eq_error_iff, modules_eq_ok_iff]
      constructor
      · rintro (⟨⟨⟩⟩ | ⟨_, _, hStage⟩)
        refine .inr ⟨trivial, ?_⟩
        rcases hStage with hModules | ⟨found, hModules, hStage⟩
        · exact .inl hModules
        · rcases hStage with hText | ⟨_, _, ⟨⟩⟩
          exact .inr ⟨found, hModules, hText⟩
      · rintro (⟨_, ⟨⟩, _⟩ | ⟨_, hStage⟩)
        refine .inr ⟨passed, rfl, ?_⟩
        rcases hStage with hModules | ⟨found, hModules, hText⟩
        · exact .inl hModules
        · exact .inr ⟨found, hModules, .inl hText⟩

------------------------------------------------------------
-- Ends of a Run
------------------------------------------------------------

/-
  How a run ends, and the file tree after it: no document is
  composed, its file cannot be opened, its file is opened but
  it has no encoding, or it is stored.
-/
inductive Ends
    (engine : Engine)
    (tree : FileTree)
    (settings : Settings) :
    Except Fault Report → FileTree → Prop where
  | stopped
      {fault : Fault}
      (hCompose : compose engine tree settings = .error fault) :
      Ends engine tree settings (.error fault) tree
  | blocked
      {found : List ModuleDoc}
      {text : Option Text}
      {fault : AccessFault}
      {made : FileTree}
      (hCompose : compose engine tree settings = .ok (found, text))
      (hStore :
        tree.store settings.outputPath (fileBytes text) =
          (.error fault, made)) :
      Ends engine tree settings
        (.error (.access settings.outputPath fault)) made
  | emptied
      {found : List ModuleDoc}
      {written : FileTree}
      (hCompose : compose engine tree settings = .ok (found, none))
      (hStore :
        tree.store settings.outputPath [] = (.ok (), written)) :
      Ends engine tree settings (.error .unencodable) written
  | stored
      {found : List ModuleDoc}
      {text : Text}
      {written : FileTree}
      (hCompose :
        compose engine tree settings = .ok (found, some text))
      (hStore :
        tree.store settings.outputPath (Utf8.encode text) =
          (.ok (), written)) :
      Ends engine tree settings
        (.ok
          { outputPath := some settings.outputPath
            modules := found
            size := (Utf8.encode text).length })
        written

/- A run ends in one of these ways. -/
theorem ends_run
    (engine : Engine)
    (tree : FileTree)
    (hSkip : settings.skip = false) :
    Ends engine tree settings (run engine tree settings).outcome
      (run engine tree settings).tree := by
  unfold run
  rw [hSkip]
  cases hCompose : compose engine tree settings with
  | error fault => exact .stopped hCompose
  | ok composed =>
      rcases composed with ⟨found, text⟩
      rcases hStore :
        tree.store settings.outputPath (fileBytes text) with
        ⟨attempt, after⟩
      simp only [hStore, Bool.false_eq_true, if_false]
      cases attempt with
      | error fault => exact .blocked hCompose hStore
      | ok passed =>
          cases text with
          | none => exact .emptied hCompose hStore
          | some text => exact .stored hCompose hStore

/- What can be the end of a run is the end of it. -/
theorem Ends.eq_run
    (hSkip : settings.skip = false)
    {outcome : Except Fault Report}
    {after : FileTree}
    (hEnds : Ends engine tree settings outcome after) :
    (run engine tree settings).outcome = outcome ∧
      (run engine tree settings).tree = after := by
  unfold run
  rw [hSkip]
  cases hEnds with
  | stopped hCompose =>
      rw [hCompose]
      exact ⟨rfl, rfl⟩
  | blocked hCompose hStore =>
      rw [hCompose]
      simp [hStore]
  | emptied hCompose hStore =>
      rw [hCompose]
      simp [fileBytes, hStore]
  | stored hCompose hStore =>
      rw [hCompose]
      simp [fileBytes, hStore]

/- A run ends with a fault exactly if it stops by it. -/
theorem exists_ends_error_iff
    (hTree : tree.Lawful)
    {fault : Fault} :
    (∃ after, Ends engine tree settings (.error fault) after) ↔
      Stops engine tree settings fault := by
  constructor
  · rintro ⟨after, hEnds⟩
    cases hEnds with
    | stopped hCompose =>
        rcases compose_eq_error_iff.mp hCompose with
          ⟨cause, hCheck, rfl⟩ | ⟨hCheck, hModules | hText⟩
        · exact .settings hCheck
        · rcases (modules_eq_error_iff hTree).mp hModules with
            ⟨before, name, after, hFiles, hBefore, hName, rfl⟩ |
            ⟨hFound, before, source, after, broken, hSources,
              hBefore, hSource, rfl⟩
          · exact .sourceNotFound hCheck hFiles hBefore hName
          · exact .sourceUnreadable hCheck hFound hSources hBefore
              hSource
        · rcases hText with ⟨found, hModules, hText⟩
          rcases rendered_eq_error_iff.mp hText with
            ⟨directory, cause, hDirectory, hEngine, rfl⟩
          exact .template hCheck hModules hDirectory hEngine
    | blocked hCompose hStore =>
        rcases compose_eq_ok_iff.mp hCompose with
          ⟨hCheck, hModules, hText⟩
        exact .outputBlocked hCheck hModules hText
          (congrArg Prod.fst hStore)
    | emptied hCompose hStore =>
        rcases compose_eq_ok_iff.mp hCompose with
          ⟨hCheck, hModules, hText⟩
        exact .unencodable hCheck hModules hText
          (congrArg Prod.fst hStore)
  · intro hStops
    cases hStops with
    | settings hCheck =>
        exact ⟨_, .stopped (compose_eq_error_iff.mpr
          (.inl ⟨_, hCheck, rfl⟩))⟩
    | sourceNotFound hCheck hFiles hBefore hName =>
        have hModules := (modules_eq_error_iff hTree).mpr
          (.inl ⟨_, _, _, hFiles, hBefore, hName, rfl⟩)
        exact ⟨_, .stopped (compose_eq_error_iff.mpr
          (.inr ⟨hCheck, .inl hModules⟩))⟩
    | sourceUnreadable hCheck hFound hSources hBefore hSource =>
        have hModules := (modules_eq_error_iff hTree).mpr
          (.inr ⟨hFound, _, _, _, _, hSources, hBefore, hSource, rfl⟩)
        exact ⟨_, .stopped (compose_eq_error_iff.mpr
          (.inr ⟨hCheck, .inl hModules⟩))⟩
    | template hCheck hModules hDirectory hEngine =>
        have hText := rendered_eq_error_iff.mpr
          ⟨_, _, hDirectory, hEngine, rfl⟩
        exact ⟨_, .stopped (compose_eq_error_iff.mpr
          (.inr ⟨hCheck, .inr ⟨_, hModules, hText⟩⟩))⟩
    | outputBlocked hCheck hModules hText hStore =>
        exact ⟨_, .blocked
          (compose_eq_ok_iff.mpr ⟨hCheck, hModules, hText⟩)
          (Prod.ext hStore rfl)⟩
    | unencodable hCheck hModules hText hStore =>
        exact ⟨_, .emptied
          (compose_eq_ok_iff.mpr ⟨hCheck, hModules, hText⟩)
          (Prod.ext hStore rfl)⟩

/- A run stops exactly by the first of its faults. -/
theorem outcome_eq_error_iff_stops
    (hTree : tree.Lawful)
    (hSkip : settings.skip = false)
    {fault : Fault} :
    (run engine tree settings).outcome = .error fault ↔
      Stops engine tree settings fault := by
  rw [← exists_ends_error_iff hTree]
  constructor
  · intro hOutcome
    have hEnds := ends_run engine tree hSkip
    rw [hOutcome] at hEnds
    exact ⟨_, hEnds⟩
  · rintro ⟨after, hEnds⟩
    exact (hEnds.eq_run hSkip).1

------------------------------------------------------------
-- Files after a Run
------------------------------------------------------------

/- A run that stops before its file is opened leaves all files. -/
theorem Ends.grows
    (hHome : tree.kind? tree.home = some .directory)
    {fault : Fault}
    {after : FileTree}
    (hEnds : Ends engine tree settings (.error fault) after)
    (hFault : fault ≠ .unencodable) :
    FileTree.Grows tree after := by
  cases hEnds with
  | stopped hCompose => exact FileTree.Grows.refl tree
  | blocked hCompose hStore =>
      exact FileTree.grows_of_store_eq_error hHome hStore
  | emptied hCompose hStore => exact absurd rfl hFault

/- No stage of composing finds a document without an encoding. -/
theorem compose_ne_unencodable
    (hTree : tree.Lawful) :
    compose engine tree settings ≠ .error .unencodable := by
  intro hCompose
  rcases compose_eq_error_iff.mp hCompose with
    ⟨cause, -, hFault⟩ | ⟨-, hModules | ⟨found, -, hText⟩⟩
  · cases hFault
  · rcases (modules_eq_error_iff hTree).mp hModules with
      ⟨before, name, after, -, -, -, hFault⟩ |
      ⟨-, before, source, after, broken, -, -, -, hFault⟩
    · cases hFault
    · cases hFault
  · rcases rendered_eq_error_iff.mp hText with
      ⟨directory, cause, -, -, hFault⟩
    cases hFault

/- It is found out when its file is open. -/
theorem Ends.store_of_unencodable
    (hTree : tree.Lawful)
    {after : FileTree}
    (hEnds :
      Ends engine tree settings (.error .unencodable) after) :
    tree.store settings.outputPath [] = (.ok (), after) := by
  cases hEnds with
  | stopped hCompose =>
      exact absurd hCompose (compose_ne_unencodable hTree)
  | emptied hCompose hStore => exact hStore

/- A run that goes through has stored what it reports. -/
theorem exists_store_of_outcome_eq_ok
    (hSkip : settings.skip = false)
    {report : Report}
    (hOutcome : (run engine tree settings).outcome = .ok report) :
    ∃ text,
      compose engine tree settings =
          .ok (report.modules, some text) ∧
        report =
          { outputPath := some settings.outputPath
            modules := report.modules
            size := (Utf8.encode text).length } ∧
        tree.store settings.outputPath (Utf8.encode text) =
          (.ok (), (run engine tree settings).tree) := by
  have hEnds := ends_run engine tree hSkip
  rw [hOutcome] at hEnds
  generalize (run engine tree settings).tree = after at hEnds ⊢
  cases hEnds with
  | stored hCompose hStore => exact ⟨_, hCompose, rfl, hStore⟩

/-
  A run that is skipped looks at nothing. Any other run stops
  exactly by the first of its faults, and then every file is
  as it was and none is new, unless the document has no
  encoding: then the file at the output path is left empty.
  Or the run goes through, and then the file at the output
  path holds the document of all sources in the order of
  collection, its length in bytes is reported, and every other
  file is as it was.
-/
theorem run_stores_or_stops
    (engine : Engine)
    (tree : FileTree)
    (settings : Settings) :
    (settings.skip = true →
      run engine tree settings =
        { outcome := .ok { skipped := true }
          events := [.generationSkipped]
          tree }) ∧
    (settings.skip = false → tree.Lawful →
      (∀ fault,
        (run engine tree settings).outcome = .error fault ↔
          Stops engine tree settings fault) ∧
      (∀ fault,
        (run engine tree settings).outcome = .error fault →
          fault ≠ .unencodable →
            ∀ place content,
              (run engine tree settings).tree.node? place =
                  some (.file content) ↔
                tree.node? place = some (.file content)) ∧
      ((run engine tree settings).outcome = .error .unencodable →
        ∃ place,
          (run engine tree settings).tree.follow
              settings.outputPath =
            .ok place ∧
          (run engine tree settings).tree.node? place =
            some (.file []) ∧
          ∀ other, other ≠ place → ∀ content,
            (run engine tree settings).tree.node? other =
                some (.file content) ↔
              tree.node? other = some (.file content)) ∧
      ∀ report,
        (run engine tree settings).outcome = .ok report →
          ∃ text place,
            Collects tree settings report.modules ∧
            rendered engine tree settings report.modules =
              .ok (some text) ∧
            report.outputPath = some settings.outputPath ∧
            report.size = (Utf8.encode text).length ∧
            report.skipped = false ∧
            (run engine tree settings).tree.follow
                settings.outputPath =
              .ok place ∧
            (run engine tree settings).tree.node? place =
              some (.file (Utf8.encode text)) ∧
            ∀ other, other ≠ place → ∀ content,
              (run engine tree settings).tree.node? other =
                  some (.file content) ↔
                tree.node? other = some (.file content)) := by
  constructor
  · intro hSkip
    unfold run
    rw [hSkip]
    rfl
  · intro hSkip hTree
    have hEnds := ends_run engine tree hSkip
    refine ⟨fun fault => outcome_eq_error_iff_stops hTree hSkip,
      ?_, ?_, ?_⟩
    · intro fault hOutcome hFault place content
      rw [hOutcome] at hEnds
      rw [FileTree.node?_eq_file_iff, FileTree.node?_eq_file_iff]
      exact (hEnds.grows hTree.home hFault).file place content
    · intro hOutcome
      rw [hOutcome] at hEnds
      exact FileTree.exists_place_of_store_eq_ok hTree.home
        (hEnds.store_of_unencodable hTree)
    · intro report hOutcome
      rcases exists_store_of_outcome_eq_ok hSkip hOutcome with
        ⟨text, hCompose, hReport, hStore⟩
      rcases compose_eq_ok_iff.mp hCompose with
        ⟨_, hModules, hText⟩
      rcases FileTree.exists_place_of_store_eq_ok hTree.home hStore
        with ⟨place, hFollow, hFile, hOthers⟩
      refine ⟨text, place, hModules, hText, ?_, ?_, ?_, hFollow,
        hFile, hOthers⟩
      · rw [hReport]
      · rw [hReport]
      · rw [hReport]

/-
  A file that is missing stops a run, which then leaves the old
  document; without it the same run replaces the document and
  leaves the source; and with a half of a surrogate pair as its
  header it empties the document and leaves the source.
-/
theorem run_stores_or_stops_missing :
    let tree : FileTree :=
      { root :=
          .directory
            [("a.dwl".toList, .file []), ("out.md".toList, .file [1])] }
    let stopped : Settings :=
      { files := ["a.dwl".toList, "b.dwl".toList]
        directories := []
        outputFile := "out.md".toList }
    let stored : Settings := { stopped with files := ["a.dwl".toList] }
    let emptied : Settings := { stored with headerText := [.half 0] }
    tree.Lawful ∧
      (run Engine.plain tree stopped).outcome =
        .error (.sourceNotFound "b.dwl".toList) ∧
      (∀ place content,
        (run Engine.plain tree stopped).tree.node? place =
            some (.file content) ↔
          tree.node? place = some (.file content)) ∧
      (∃ report text,
        (run Engine.plain tree stored).outcome = .ok report ∧
        rendered Engine.plain tree stored report.modules =
          .ok (some text) ∧
        report.size = (Utf8.encode text).length ∧
        (run Engine.plain tree stored).tree.node?
            ["out.md".toList] =
          some (.file (Utf8.encode text)) ∧
        (run Engine.plain tree stored).tree.node?
            ["a.dwl".toList] =
          some (.file [])) ∧
      (run Engine.plain tree emptied).outcome =
        .error .unencodable ∧
      (run Engine.plain tree emptied).tree.node?
          ["out.md".toList] =
        some (.file []) ∧
      (run Engine.plain tree emptied).tree.node?
          ["a.dwl".toList] =
        some (.file []) := by
  intro tree stopped stored emptied
  have hLawful : tree.Lawful := by
    let source : FileTree :=
      { root := .directory [("a.dwl".toList, .file [])] }
    have hSource :
        FileTree.store {} (Path.ofText "a.dwl".toList) [] =
          (.ok (), source) := rfl
    have hOutput :
        source.store (Path.ofText "out.md".toList) [1] =
          (.ok (), tree) := rfl
    exact (FileTree.Lawful.empty.store hSource).store hOutput
  have hStopped :=
    (run_stores_or_stops Engine.plain tree stopped).2 rfl hLawful
  have hStored :=
    (run_stores_or_stops Engine.plain tree stored).2 rfl hLawful
  have hEmptied :=
    (run_stores_or_stops Engine.plain tree emptied).2 rfl hLawful
  have hFiles :
      stopped.files = ["a.dwl".toList] ++ "b.dwl".toList :: [] := rfl
  have hFault :
      Stops Engine.plain tree stopped
        (.sourceNotFound "b.dwl".toList) :=
    .sourceNotFound rfl hFiles (by decide) (by decide)
  have hOutcome := (hStopped.1 _).mpr hFault
  have hHalf :
      (run Engine.plain tree emptied).outcome =
        .error .unencodable := rfl
  refine ⟨hLawful, hOutcome,
    hStopped.2.1 _ hOutcome (by decide), ?_, hHalf, ?_⟩
  · have hReport :
        ∃ report,
          (run Engine.plain tree stored).outcome = .ok report :=
      ⟨_, rfl⟩
    have hPlace :
        (run Engine.plain tree stored).tree.follow
            stored.outputPath =
          .ok ["out.md".toList] := rfl
    rcases hReport with ⟨report, hReport⟩
    rcases hStored.2.2.2 report hReport with
      ⟨text, place, _, hText, _, hSize, _, hFollow, hNode, hOthers⟩
    cases hPlace.symm.trans hFollow
    refine ⟨report, text, hReport, hText, hSize, hNode, ?_⟩
    exact (hOthers ["a.dwl".toList] (by decide) []).mpr rfl
  · have hPlace :
        (run Engine.plain tree emptied).tree.follow
            emptied.outputPath =
          .ok ["out.md".toList] := rfl
    rcases hEmptied.2.2.1 hHalf with
      ⟨place, hFollow, hNode, hOthers⟩
    cases hPlace.symm.trans hFollow
    refine ⟨hNode, ?_⟩
    exact (hOthers ["a.dwl".toList] (by decide) []).mpr rfl

/-
  A run that stops may lose the old document: half a surrogate
  pair as the header is no fault of the settings, all sources
  are read, and the file is emptied before the document turns
  out to have no encoding.
-/
theorem run_empties_unencodable :
    let tree : FileTree :=
      { root :=
          .directory
            [("m.dwl".toList, .file []),
              ("out.md".toList,
                .file (Utf8.encode "old\n".toList))] }
    let settings : Settings :=
      { headerText := [.half 0]
        files := ["m.dwl".toList]
        directories := []
        outputFile := "out.md".toList }
    settings.check = .ok () ∧
      (run Engine.plain tree settings).outcome =
        .error .unencodable ∧
      tree.node? ["out.md".toList] =
        some (.file (Utf8.encode "old\n".toList)) ∧
      (run Engine.plain tree settings).tree.node?
          ["out.md".toList] =
        some (.file []) := by
  refine ⟨rfl, rfl, rfl, rfl⟩

end Generation

end Marginalia
