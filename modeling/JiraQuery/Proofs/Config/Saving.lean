import JiraQuery.Proofs.Config.Files
import JiraQuery.Proofs.Outcome
import JiraQuery.Proofs.Toml.Wholes

/-!
# Configurations that are saved and loaded

What was loaded is checked, in range and small enough to be written, and stays as it is when it is saved and
loaded again. Main statement: `resaved_of_load`.
-/

namespace JiraQuery

variable {c c' : Config} {d d' : Disk} {path : String}

/-! ## Loaded configurations -/

namespace Json

theorem Narrow.timeout {j : Json} {n : UInt64} (h : j.Narrow) (hn : decode? j = some n) :
    n.toNat < 0x8000000000000000 := by
  obtain ⟨k, hk, rfl⟩ := Option.map_eq_some_iff.1 hn
  cases h with
  | @int m hlow hhigh =>
    have hk : (if 0 ≤ m ∧ m ≤ 0xFFFFFFFFFFFFFFFF then some m else none) = some k := hk
    split_ifs at hk
    obtain rfl := Option.some.inj hk
    rw [UInt64.toNat_ofNat']
    omega
  | _ => cases hk

end Json

/-- The fields of a narrow document are narrow. -/
theorem Record.narrow_find? {j x : Json} {r : Record} {i : ℕ} {name : String} (h : j.Narrow)
    (hr : Record.ofJson? j = some r) (hx : r.find? i name = some x) : x.Narrow := by
  cases h with
  | arr hitems =>
    obtain rfl := Option.some.inj hr
    exact hitems x (List.mem_of_getElem? hx)
  | obj hmembers =>
    obtain rfl := Option.some.inj hr
    exact hmembers (name, x) (Members.mem_of_get? hx)
  | _ => cases hr

theorem Settings.timeout_lt {j : Json} {s : Settings} (h : j.Narrow)
    (hs : (Record.ofJson? j).bind Settings.ofRecord? = some s) : s.timeoutSecs.toNat < 0x8000000000000000 := by
  obtain ⟨r, hr, hs⟩ := Option.bind_eq_some_iff.1 hs
  obtain ⟨maxIssues, -, hs⟩ := Option.bind_eq_some_iff.1 hs
  obtain ⟨serverMax, -, hs⟩ := Option.bind_eq_some_iff.1 hs
  obtain ⟨timeout, htimeout, hs⟩ := Option.bind_eq_some_iff.1 hs
  obtain ⟨retries, -, hs⟩ := Option.bind_eq_some_iff.1 hs
  obtain ⟨privacy, -, hs⟩ := Option.bind_eq_some_iff.1 hs
  obtain rfl := Option.some.inj hs
  unfold Record.withDefault at htimeout
  split at htimeout
  · obtain rfl := Option.some.inj htimeout
    show (30 : UInt64).toNat < _
    decide
  · next x hx => exact (Record.narrow_find? h hr hx).timeout htimeout

namespace Config

theorem isWritable_of_ofToml? {text : String} (h : ofToml? text = some c) : c.IsWritable := by
  obtain ⟨j, hj, h⟩ := Option.bind_eq_some_iff.1 h
  have hnarrow := Toml.narrow_of_parse? hj
  obtain ⟨r, hr, h⟩ := Option.bind_eq_some_iff.1 h
  obtain ⟨name, -, h⟩ := Option.bind_eq_some_iff.1 h
  obtain ⟨s, hs, h⟩ := Option.bind_eq_some_iff.1 h
  obtain ⟨ps, -, h⟩ := Option.bind_eq_some_iff.1 h
  obtain rfl := Option.some.inj h
  show s.timeoutSecs.toNat < _
  cases hfind : r.find? 1 "settings" with
  | none =>
    rw [hfind] at hs
    obtain rfl := Option.some.inj hs
    decide
  | some x =>
    rw [hfind] at hs
    exact Settings.timeout_lt (Record.narrow_find? hnarrow hr hfind) hs

/-- What is known of a configuration that was loaded. -/
structure Settled (c : Config) : Prop where
  valid : c.validate = .ok ()
  normal : c.settings.normalize = c.settings
  writable : c.IsWritable

theorem elim_eq_ok_iff {ε α : Type} {x : Option α} {e : ε} {a : α} :
    x.elim (.error e) Except.ok = .ok a ↔ x = some a := by
  cases x with
  | none => simp
  | some b => simp

/-- A configuration is loaded if a file can be read as one that is valid once it is in range. -/
theorem load_eq_ok_iff : load d path = .ok c ↔ ∃ text c₀, d.read? path = some text ∧ ofToml? text = some c₀ ∧
    c = { c₀ with settings := c₀.settings.normalize } ∧ c.validate = .ok () := by
  unfold load
  rw [bind_eq_ok_iff]
  constructor
  · rintro ⟨text, htext, h⟩
    obtain ⟨c₀, hc₀, h⟩ := bind_eq_ok_iff.1 h
    obtain ⟨u, hvalid, h⟩ := bind_eq_ok_iff.1 h
    obtain rfl := Except.ok.inj h
    exact ⟨text, c₀, elim_eq_ok_iff.1 htext, elim_eq_ok_iff.1 hc₀, rfl, hvalid⟩
  · rintro ⟨text, c₀, htext, hc₀, rfl, hvalid⟩
    refine ⟨text, elim_eq_ok_iff.2 htext, bind_eq_ok_iff.2 ⟨c₀, elim_eq_ok_iff.2 hc₀, ?_⟩⟩
    exact bind_eq_ok_iff.2 ⟨(), hvalid, rfl⟩

theorem settled_of_load (h : load d path = .ok c) : c.Settled := by
  obtain ⟨text, c₀, -, hc₀, rfl, hvalid⟩ := load_eq_ok_iff.1 h
  have hwritable : c₀.IsWritable := isWritable_of_ofToml? hc₀
  exact ⟨hvalid, c₀.settings.normalize_normalize, hwritable⟩

/-! ## Saving -/

theorem Settled.toToml? (h : c.Settled) : c.toToml? = some (Toml.render c.sections) :=
  if_pos h.writable

/-- What can be read of a file is what was written to it. -/
theorem Settled.load_of_read (h : c.Settled) (hread : d.read? path = some (Toml.render c.sections)) :
    load d path = .ok c := by
  refine load_eq_ok_iff.2 ⟨_, c, hread, ofToml?_render h.writable, ?_, h.valid⟩
  rw [h.normal]

end Config

/-- Whether some file can be written at a path, once the directories on the way are there. -/
def Disk.Writable (d : Disk) (path : String) : Prop :=
  (d.makeDirectories (Disk.parentPath path)).1 = true ∧
    ∃ text, ((d.makeDirectories (Disk.parentPath path)).2.write? path text).isSome = true

/-- Where a file can be written, any text can. -/
theorem Disk.Writable.exists_write (h : d.Writable path) (text : String) :
    ∃ d₁, (d.makeDirectories (parentPath path)).2.write? path text = some d₁ := by
  obtain ⟨-, other, hother⟩ := h
  obtain ⟨d₁, hwrite⟩ := Option.isSome_iff_exists.1 hother
  unfold write? store? at hwrite ⊢
  split_ifs at hwrite with hslash
  rw [if_neg hslash]
  obtain ⟨place, hplace, hwrite⟩ := Option.bind_eq_some_iff.1 hwrite
  split_ifs at hwrite with hdirectory
  rw [hplace, Option.bind_some, if_neg hdirectory]
  exact ⟨_, rfl⟩

namespace Config

/-- A settled configuration is saved wherever a file can be written, and is loaded from there. -/
theorem Settled.save_load (h : c.Settled) (hpath : d.Writable path) :
    ∃ d₁, c.save path d = (.ok (), d₁) ∧ load d₁ path = .ok c := by
  obtain ⟨d₁, hwrite⟩ := hpath.exists_write (Toml.render c.sections)
  refine ⟨d₁, ?_, h.load_of_read (Disk.read_write hwrite)⟩
  obtain ⟨hmade, -⟩ := hpath
  rcases hdirectories : d.makeDirectories (Disk.parentPath path) with ⟨made, d₂⟩
  rw [hdirectories] at hmade hwrite
  obtain rfl : made = true := hmade
  unfold save
  rw [h.valid]
  simp only [hdirectories, h.toToml?, hwrite]

/-- A settled configuration that was saved is loaded from where it was saved. -/
theorem Settled.load_of_save (h : c.Settled) (hsave : c.save path d = (.ok (), d')) : load d' path = .ok c := by
  unfold save at hsave
  rw [h.valid] at hsave
  dsimp only at hsave
  split at hsave
  · cases hsave
  · rw [h.toToml?] at hsave
    dsimp only at hsave
    split at hsave
    · cases hsave
    · next hwrite =>
      obtain ⟨-, rfl⟩ := Prod.mk.inj hsave
      exact h.load_of_read (Disk.read_write hwrite)

/-! ## Again and again -/

/-- What comes out of any number of rounds, in each of which the configuration is saved somewhere and loaded
from there. -/
inductive Resaved (c : Config) : Config → Prop
  | never : Resaved c c
  | again {c₁ c₂ : Config} {d d₁ : Disk} {path : String} (h : Resaved c c₁)
    (hsave : c₁.save path d = (.ok (), d₁)) (hload : load d₁ path = .ok c₂) : Resaved c c₂

/-- By induction on the rounds. -/
theorem Settled.eq_of_resaved (h : c.Settled) (hc' : Resaved c c') : c' = c := by
  induction hc' with
  | never => rfl
  | again _ hsave hload ih =>
    subst ih
    exact Except.ok.inj (hload.symm.trans (h.load_of_save hsave))

/-- A configuration that was loaded from any file can be saved wherever a file can be written. The very same
configuration is loaded from there, and no number of such rounds changes it. -/
theorem resaved_of_load (h : load d path = .ok c) :
    (∀ (d' : Disk) (path' : String), d'.Writable path' →
      ∃ d₁, c.save path' d' = (.ok (), d₁) ∧ load d₁ path' = .ok c) ∧
    ∀ c', Resaved c c' → c' = c := by
  have hsettled := settled_of_load h
  constructor
  · intro d' path' hpath
    exact hsettled.save_load hpath
  · intro c' hc'
    exact hsettled.eq_of_resaved hc'

/-- A file by hand, with numbers in other forms and a page size that the server does not allow. -/
def handwritten : String :=
  "settings = \x7b max_issues_per_request = 0x1_F4, timeout_secs = 9_223_372_036_854_775_807 \x7d # all\n" ++
    "\n[[profiles]]\nname = \x27work\x27\nurl = \"https://jira.example.com\"\nemail = \"me@ex\\u00e9.com\"\n"

/-- The configuration in the file. -/
def handwrittenConfig : Config where
  settings := { maxIssuesPerRequest := 100, timeoutSecs := 9223372036854775807 }
  profiles := [{ name := "work", url := "https://jira.example.com", email := "me@exé.com" }]

theorem ofToml?_handwritten : ofToml? handwritten = some
    { handwrittenConfig with settings := { handwrittenConfig.settings with maxIssuesPerRequest := 500 } } := by
  decide +kernel

/-- A file by hand is loaded, saved and loaded again. -/
theorem resaved_of_load_handwritten :
    load { entries := [(["config.toml"], .file (some handwritten))] } "config.toml" = .ok handwrittenConfig ∧
      Disk.Writable {} "saved/config.toml" ∧
      (∃ d₁, handwrittenConfig.save "saved/config.toml" {} = (.ok (), d₁) ∧
        load d₁ "saved/config.toml" = .ok handwrittenConfig) ∧
      ∀ c', Resaved handwrittenConfig c' → c' = handwrittenConfig := by
  have hload : load { entries := [(["config.toml"], .file (some handwritten))] } "config.toml" =
      .ok handwrittenConfig :=
    load_eq_ok_iff.2 ⟨handwritten, _, by rfl, ofToml?_handwritten, by decide, by decide +kernel⟩
  have hwritable : Disk.Writable {} "saved/config.toml" := ⟨by decide +kernel, "", by decide +kernel⟩
  obtain ⟨hsave, hagain⟩ := resaved_of_load hload
  exact ⟨hload, hwritable, hsave {} _ hwritable, hagain⟩

end Config

end JiraQuery
