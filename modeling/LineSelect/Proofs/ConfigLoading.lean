import LineSelect.Proofs.ConfigText
import LineSelect.Proofs.FileChanges
import LineSelect.Proofs.SelectRun

/-!
The ways to come by a configuration agree: the one that repairs the file, the one that falls back
on the defaults, and the one without a fallback. So the configuration that is shown is the one that
runs at that moment use, before a file that cannot be read is repaired and after it.
-/

namespace LineSelect

theorem FileTree.decode_toUTF8 (text : String) : decode text.toUTF8 = .ok text := by
  have htext : String.fromUTF8? text.toUTF8 = some text := dif_pos text.isValidUTF8
  rw [decode, htext]

namespace Config

variable {tree changed : FileTree} {path : Path} {config : Config}

theorem saveDefault_eq_ok (h : saveDefault tree path = (.ok (), changed)) :
    changed.get? path = some (.file defaultText.toUTF8) := by
  unfold saveDefault at h
  split at h
  · cases h
  · next prepared hprepared =>
    split at h
    · cases h
    · next written hwritten =>
      obtain rfl := (Prod.mk.inj h).2
      rw [FileTree.get?_of_write hwritten, if_pos rfl]

theorem load_of_text {text : String} (hfile : tree.get? path = some (.file text.toUTF8))
    (hparse : parse? text = some config) : load tree path = .ok config := by
  have hread : tree.readText path = .ok text := by
    rw [FileTree.readText, FileTree.read, hfile]
    exact FileTree.decode_toUTF8 text
  simp only [load, hread, hparse]

theorem load_of_saveDefault (h : saveDefault tree path = (.ok (), changed)) :
    load changed path = .ok {} :=
  load_of_text (saveDefault_eq_ok h) parse?_defaultText

theorem loadOrDefault_of_load (h : load tree path = .ok config) :
    loadOrDefault tree path = config := by
  rw [loadOrDefault, h]

theorem loadOrCreate_of_load (h : load tree path = .ok config) :
    loadOrCreate tree path = (.ok config, tree) := by
  rw [loadOrCreate, h]

/-- A configuration that is repaired or not is the one at the path, and then nothing has changed; or
it is the defaults, which have been written because nothing could be read. -/
theorem loadOrCreate_cases (h : loadOrCreate tree path = (.ok config, changed)) :
    load tree path = .ok config ∧ changed = tree ∨
      (∃ e, load tree path = .error e) ∧ config = {} ∧
        saveDefault tree path = (.ok (), changed) := by
  unfold loadOrCreate at h
  split at h
  · next found hload =>
    obtain ⟨hconfig, htree⟩ := Prod.mk.inj h
    obtain rfl := Except.ok.inj hconfig
    exact .inl ⟨hload, htree.symm⟩
  · next e hload =>
    split at h
    · cases h
    · next saved hsave =>
      obtain ⟨hconfig, rfl⟩ := Prod.mk.inj h
      exact .inr ⟨⟨e, hload⟩, (Except.ok.inj hconfig).symm, hsave⟩

theorem load_of_loadOrCreate (h : loadOrCreate tree path = (.ok config, changed)) :
    load changed path = .ok config := by
  rcases loadOrCreate_cases h with ⟨hload, rfl⟩ | ⟨-, rfl, hsave⟩
  · exact hload
  · exact load_of_saveDefault hsave

theorem loadOrDefault_of_loadOrCreate (h : loadOrCreate tree path = (.ok config, changed)) :
    loadOrDefault tree path = config := by
  rcases loadOrCreate_cases h with ⟨hload, -⟩ | ⟨⟨e, hload⟩, rfl, -⟩
  · exact loadOrDefault_of_load hload
  · rw [loadOrDefault, hload]

end Config

namespace Program

theorem run_config_show (env : Environment) :
    run env ["config", "--show"] = configure env true false := by
  have hparse : CommandLine.parse ["config", "--show"] = .ok (.config true false) := by
    decide +kernel
  rw [run, hparse]

theorem configure_show_cases (env : Environment) :
    (configure env true false).code ≠ 0 ∨
      ∃ home config, env.home = some home ∧
        Config.loadOrCreate env.tree (configPath home) =
          (.ok config, (configure env true false).tree) ∧
        (configure env true false).output =
          "# " ++ env.tree.display (configPath home) ++ "\n" ++ config.text := by
  cases hhome : env.home with
  | none =>
      simp only [configure, hhome, failed]
      exact .inl Nat.one_ne_zero
  | some home =>
      simp only [configure, hhome, Bool.false_eq_true, if_false, if_true]
      split
      · exact .inl Nat.one_ne_zero
      · next config changed hload => exact .inr ⟨home, config, rfl, hload, rfl⟩

/-- The ways to come by a configuration agree, in three parts. A configuration that is loaded with
repair is found before it, after it, without a fallback after it, and with repair once more, which
then changes nothing; and nothing is changed if the file could be loaded as it was. The document
that is written where there is none gives the defaults. And what is shown spells the configuration
that every run that selects uses, before the file is repaired and after it. -/
theorem loaders_agree :
    (∀ tree path config changed, Config.loadOrCreate tree path = (.ok config, changed) →
      Config.loadOrDefault tree path = config ∧
      Config.loadOrDefault changed path = config ∧
      Config.load changed path = .ok config ∧
      Config.loadOrCreate changed path = (.ok config, changed) ∧
      ((∃ found, Config.load tree path = .ok found) → changed = tree)) ∧
    (∀ tree path changed, Config.saveDefault tree path = (.ok (), changed) →
      Config.load changed path = .ok {}) ∧
    ∀ env : Environment, (run env ["config", "--show"]).code = 0 →
      ∃ home config, env.home = some home ∧ (run env ["config", "--show"]).output =
          "# " ++ env.tree.display (configPath home) ++ "\n" ++ config.text ∧
        Config.parse? config.text = some config ∧
        ∀ request, select env request = selectWith config env request ∧
          select { env with tree := (run env ["config", "--show"]).tree } request =
            selectWith config { env with tree := (run env ["config", "--show"]).tree } request := by
  refine ⟨?_, ?_, ?_⟩
  · intro tree path config changed h
    have hload := Config.load_of_loadOrCreate h
    refine ⟨Config.loadOrDefault_of_loadOrCreate h, Config.loadOrDefault_of_load hload, hload,
      Config.loadOrCreate_of_load hload, ?_⟩
    rintro ⟨found, hfound⟩
    rcases Config.loadOrCreate_cases h with ⟨-, hsame⟩ | ⟨⟨e, he⟩, -, -⟩
    · exact hsame
    · rw [hfound] at he
      cases he
  · intro tree path changed h
    exact Config.load_of_saveDefault h
  · intro env hcode
    rw [run_config_show] at hcode ⊢
    rcases configure_show_cases env with hfailed | ⟨home, config, hhome, hload, houtput⟩
    · exact absurd hcode hfailed
    · refine ⟨home, config, hhome, houtput, config.parse?_text, fun request => ⟨?_, ?_⟩⟩
      · rw [select_eq_selectWith, Environment.config_of_home hhome,
          Config.loadOrDefault_of_loadOrCreate hload]
      · have hafter := Config.loadOrDefault_of_load (Config.load_of_loadOrCreate hload)
        have hconfig : { env with tree := (configure env true false).tree }.config = config := by
          simp only [Environment.config, hhome]
          exact hafter
        rw [select_eq_selectWith, hconfig]

theorem loaders_agree_no_text :
    let path : Path := [".edtext", "config.toml"]
    let tree : FileTree :=
      { entries := [([".edtext"], .directory), (path, .file ⟨#[0xff]⟩)] }
    let changed := tree.set path (.file Config.defaultText.toUTF8)
    (Config.loadOrCreate tree path = (.ok {}, changed) ∧
      Config.loadOrDefault tree path = {} ∧ Config.load changed path = .ok {} ∧
      Config.loadOrCreate changed path = (.ok {}, changed)) ∧
    ∃ config : Config, (run { tree } ["config", "--show"]).output =
      "# /.edtext/config.toml\n" ++ config.text := by
  intro path tree changed
  have hload : Config.load tree path = .error (.read "/.edtext/config.toml" .notText) := by
    decide +kernel
  have hcreate : Config.loadOrCreate tree path = (.ok {}, changed) := by
    simp only [Config.loadOrCreate, hload]
    rfl
  have hcode : (run { tree } ["config", "--show"]).code = 0 := by
    have hshown : Config.loadOrCreate tree (configPath []) = (.ok {}, changed) := hcreate
    simp only [run_config_show, configure, hshown, Bool.false_eq_true, if_false, if_true]
  obtain ⟨hloads, -, hshow⟩ := loaders_agree
  obtain ⟨hbefore, -, hafter, hagain, -⟩ := hloads _ _ _ _ hcreate
  obtain ⟨home, config, hhome, houtput, -⟩ := hshow { tree } hcode
  obtain rfl := Option.some.inj hhome
  exact ⟨⟨hcreate, hbefore, hafter, hagain⟩, config, houtput⟩

end Program

end LineSelect
