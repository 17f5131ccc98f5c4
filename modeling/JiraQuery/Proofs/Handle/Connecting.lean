import JiraQuery.Handle.Basic
import JiraQuery.Proofs.Net.Addresses

/-!
# Connecting to the server of a profile

A profile is checked when it is read and once more when it is used. It is checked for a scheme at the front
of its address as it is written; the client wants one at the front of what is left without the slashes at
the end. The two agree except on addresses that are bare. Main statement: `Profile.connects_iff`.
-/

namespace JiraQuery

variable {p : Profile} {value : Option String} {settings : Settings} {token : Token} {l : Link}

theorem Profile.Valid.hasScheme (h : p.Valid) : ServerUrl.hasScheme p.url.toList = true :=
  h.url_scheme

namespace Handle

/-- A handle has the client that was made for it. -/
theorem connect_of_create {url : String} {auth : Option Auth} {c : Client} (token : Token) (l : Link)
    (hc : Client.create url auth settings.normalize = .ok c) :
    ∃ m, connect url auth settings token l = (.ok ⟨c, settings.normalize, token⟩, m) := by
  simp only [connect, hc]
  exact ⟨_, rfl⟩

/-- A handle comes into being if its address is accepted, and nothing else can go wrong. -/
theorem connect_cases (url : String) (auth : Option Auth) :
    (∃ base, ServerUrl.normalize url = .ok base ∧ ∃ h, (connect url auth settings token l).1 = .ok h) ∨
      ∃ e, ServerUrl.normalize url = .error e ∧ (connect url auth settings token l).1 = .error (.api e) := by
  cases hurl : ServerUrl.normalize url with
  | ok base =>
    have hclient : Client.create url auth settings.normalize =
        .ok { baseUrl := base, auth, retries := settings.normalize.maxRetries.toNat - 1 } := by
      unfold Client.create
      rw [hurl]
      rfl
    obtain ⟨m, hconnect⟩ := connect_of_create token l hclient
    exact .inl ⟨base, rfl, _, congrArg Prod.fst hconnect⟩
  | error e =>
    have hclient : Client.create url auth settings.normalize = .error e := by
      unfold Client.create
      rw [hurl]
      rfl
    refine .inr ⟨e, rfl, ?_⟩
    simp only [connect, hclient]

theorem connectProfile_of_validate (hp : p.validate = .ok ()) (secret : String) :
    connectProfile p (some secret) settings token l =
      connect p.url (some (.basic p.email secret)) settings token l := by
  unfold connectProfile
  rw [hp]
  rfl

theorem connectProfile_of_no_token (hp : p.validate = .ok ()) :
    connectProfile p none settings token l = (.error (.config (.missingToken p.tokenEnvVar)), l) := by
  unfold connectProfile
  rw [hp]
  rfl

end Handle

/-- What becomes of an accepted profile. Its address is accepted too, and a token is all that it takes to
connect, unless the address is bare: with a token the attempt then fails for the address, and it never
fails for the address otherwise. -/
theorem Profile.connects_iff (p : Profile) (hp : p.validate = .ok ()) :
    ((∃ base, ServerUrl.normalize p.url = .ok base) ↔ ¬ServerUrl.IsBare p.url) ∧
    ∀ (settings : Settings) (token : Token) (l : Link),
      (∀ secret, (∃ h, (Handle.connectProfile p (some secret) settings token l).1 = .ok h) ↔
        ¬ServerUrl.IsBare p.url) ∧
      ∀ value, (∃ url, (Handle.connectProfile p value settings token l).1 = .error (.api (.invalidUrl url))) ↔
        ServerUrl.IsBare p.url ∧ value.isSome = true := by
  have hscheme := (Profile.validate_eq_ok_iff.1 hp).hasScheme
  have hnormalize := ServerUrl.normalize_eq_ok_iff hscheme
  refine ⟨hnormalize, fun settings token l => ⟨fun secret => ?_, fun value => ?_⟩⟩
  · rw [← hnormalize, Handle.connectProfile_of_validate hp]
    rcases Handle.connect_cases p.url (some (.basic p.email secret)) with ⟨base, hbase, hopen⟩ | ⟨e, he, hfails⟩
    · exact ⟨fun _ => ⟨base, hbase⟩, fun _ => hopen⟩
    · rw [hfails, he]
      constructor
      · rintro ⟨h, hok⟩
        cases hok
      · rintro ⟨base, hok⟩
        cases hok
  · cases value with
    | none =>
      rw [Handle.connectProfile_of_no_token hp]
      constructor
      · rintro ⟨url, herror⟩
        cases herror
      · rintro ⟨-, hsome⟩
        cases hsome
    | some secret =>
      rw [Handle.connectProfile_of_validate hp]
      rcases Handle.connect_cases p.url (some (.basic p.email secret)) with ⟨base, hbase, h, hopen⟩ | ⟨e, he, hfails⟩
      · rw [hopen]
        constructor
        · rintro ⟨url, herror⟩
          cases herror
        · rintro ⟨hbare, -⟩
          exact absurd hbare (hnormalize.1 ⟨base, hbase⟩)
      · have hbare : ServerUrl.IsBare p.url := by
          by_contra hnot
          obtain ⟨base, hok⟩ := hnormalize.2 hnot
          cases he.symm.trans hok
        rw [hfails]
        refine ⟨fun _ => ⟨hbare, rfl⟩, fun _ => ?_⟩
        rcases ServerUrl.normalize_of_isBare hbare with herror | herror
        · obtain rfl := Except.error.inj (he.symm.trans herror)
          exact ⟨_, rfl⟩
        · obtain rfl := Except.error.inj (he.symm.trans herror)
          exact ⟨_, rfl⟩

/-- A profile with a server, and with slashes and white space after it. -/
def servedProfile : Profile where
  name := "work"
  url := "https://jira.example.com// "
  email := "me@example.com"

/-- A profile whose address is all scheme. -/
def serverlessProfile : Profile :=
  { servedProfile with url := "https://" }

theorem isBare_serverless : ServerUrl.IsBare serverlessProfile.url :=
  ⟨_, List.mem_cons_self, [], [], rfl, List.forall_mem_nil _, List.forall_mem_nil _⟩

/-- Of two accepted profiles the one with a server can be connected to and the other one cannot. -/
theorem connects_served :
    servedProfile.validate = .ok () ∧ serverlessProfile.validate = .ok () ∧
      ∀ (secret : String) (settings : Settings) (token : Token) (l : Link),
        (∃ h, (Handle.connectProfile servedProfile (some secret) settings token l).1 = .ok h) ∧
          ∃ url, (Handle.connectProfile serverlessProfile (some secret) settings token l).1 =
            .error (.api (.invalidUrl url)) := by
  have hserved : servedProfile.validate = .ok () := by decide +kernel
  have hserverless : serverlessProfile.validate = .ok () := by decide +kernel
  have hbase : ServerUrl.normalize servedProfile.url = .ok "https://jira.example.com" := by rfl
  obtain ⟨hnormalize, hconnect⟩ := Profile.connects_iff servedProfile hserved
  obtain ⟨-, hfails⟩ := Profile.connects_iff serverlessProfile hserverless
  refine ⟨hserved, hserverless, fun secret settings token l => ⟨?_, ?_⟩⟩
  · exact ((hconnect settings token l).1 secret).2 (hnormalize.1 ⟨_, hbase⟩)
  · exact ((hfails settings token l).2 (some secret)).2 ⟨isBare_serverless, rfl⟩

/-- A profile that was accepted cannot be connected to, since nothing is left of the slashes that its scheme
ends in. -/
theorem serverless_refused :
    serverlessProfile.validate = .ok () ∧
      ServerUrl.normalize serverlessProfile.url = .error (.invalidUrl "https:") ∧
      ∀ (secret : String) (settings : Settings) (token : Token) (l : Link),
        (Handle.connectProfile serverlessProfile (some secret) settings token l).1 =
          .error (.api (.invalidUrl "https:")) := by
  have hvalid : serverlessProfile.validate = .ok () := by decide +kernel
  have hrefused : ServerUrl.normalize serverlessProfile.url = .error (.invalidUrl "https:") := by rfl
  refine ⟨hvalid, hrefused, fun secret settings token l => ?_⟩
  rw [Handle.connectProfile_of_validate hvalid]
  rcases Handle.connect_cases serverlessProfile.url (some (.basic serverlessProfile.email secret)) with
    ⟨base, hbase, -⟩ | ⟨e, he, hfails⟩
  · cases hrefused.symm.trans hbase
  · obtain rfl := Except.error.inj (hrefused.symm.trans he)
    exact hfails

end JiraQuery
