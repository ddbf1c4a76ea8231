import Lapdev.Api.AdminChanges
import Lapdev.Kube.DnsLabel
import Lapdev.RustStd.Digits

/-!
# Preview URLs

`create_environment_preview_url` of `api/src/kube_controller/preview_url.rs` names a preview URL
after a port, a service and a random suffix and publishes it as the first label of a host name;
`PreviewUrlResolver` of `kube/src/preview_url.rs` takes that label apart and looks the name up
again. Neither the digits of the port nor the suffix hold a hyphen, so the label is taken apart at
its first and last one, whatever hyphens the service has (`parsePreviewUrl_previewName`), and names
are unique among the rows that are not deleted (`publishedHost_resolves`).
-/

namespace Lapdev

open RustStd Sql Programs

/-! ## Names -/

/-- Source: `LAPDEV_API_HOST` of `common/src/lib.rs`. -/
def lapdevApiHost : Str := "app.lap.dev".toList

/-- `rand::distr::Alphanumeric`, as many characters as are taken of it. -/
structure AlphanumericSample (n : Nat) where
  chars : List Char
  length : chars.length = n
  isAlphanum : ∀ c ∈ chars, c.isAlphanum = true

/-- Source: `rand_string` of `common/src/utils.rs`, of a sample. -/
def randString {n : Nat} (sample : AlphanumericSample n) : Str := sample.chars.map Char.toLower

/-- `format!("{}-{}-{}", ..)` of a port, a service and a suffix. -/
def previewName (port serviceName suffix : Str) : Str :=
  port ++ '-' :: (serviceName ++ '-' :: suffix)

/-- The host of the URL that is published for a name. -/
def publishedHost (name : Str) : Str := name ++ '.' :: lapdevApiHost

/-! ## Resolution -/

/-- Source: `kube/src/preview_url.rs`. -/
structure PreviewUrlInfo where
  serviceName : Str
  port : UInt16
  environmentHash : Str

/-- Source: `kube/src/preview_url.rs`. -/
structure PreviewUrlTarget where
  clusterId : Uuid
  namespace_ : String
  serviceName : String
  servicePort : UInt16
  accessLevel : PreviewUrlAccessLevel
  protocol : String
  environmentId : Uuid
  organizationId : Uuid
  previewUrlId : Uuid

/-- Source: `kube/src/preview_url.rs`; an error of the database is its text. -/
inductive PreviewUrlError
  | invalidFormat
  | invalidPort
  | environmentNotFound
  | serviceNotFound
  | previewUrlNotConfigured
  | accessDenied
  | database (error : Str)
  | seaOrm (error : Str)
  deriving DecidableEq, Repr

/-- `Display`, of `thiserror`. -/
def PreviewUrlError.toString : PreviewUrlError → Str
  | invalidFormat => "Invalid preview URL format".toList
  | invalidPort => "Invalid port number".toList
  | environmentNotFound => "Environment not found".toList
  | serviceNotFound => "Service not found".toList
  | previewUrlNotConfigured => "Preview URL not configured".toList
  | accessDenied => "Access denied".toList
  | database error => "Database error: ".toList ++ error
  | seaOrm error => "SeaORM error: ".toList ++ error

/-- The first label of a host, in `handle_client_connection` of `kube/src/http_proxy.rs`. -/
def subdomainOf (host : Str) : Option Str := (Str.split '.' host).head?

/-- Source: `db/src/api.rs`, `find_preview_url_by_name`. -/
def HrpcServer.findPreviewUrlByName {Text : Type} (s : HrpcServer Text) (name : Str) :
    Option KubeEnvironmentPreviewUrl.Model :=
  s.previewUrls.one fun p => p.name.toList = name && p.deletedAt = none

namespace PreviewUrlResolver

/-- Source: `parse_preview_url`. -/
def parsePreviewUrl (subdomain : Str) : Except PreviewUrlError PreviewUrlInfo :=
  let parts := Str.split '-' subdomain
  if parts.length < 3 then .error .invalidFormat
  else
    match Str.parseU16 (parts.headD []) with
    | none => .error .invalidPort
    | some port => .ok {
        serviceName := Str.join ['-'] ((parts.take (parts.length - 1)).drop 1)
        port
        environmentHash := parts.getLastD [] }

/-- The slug of an info. -/
def slug (info : PreviewUrlInfo) : Str :=
  previewName (Str.ofNat info.port.toNat) info.serviceName info.environmentHash

section
variable {Text : Type}

/-- What the database answers to the reads of `resolve_preview_url`. -/
structure Reads (Text : Type) where
  previewUrl : Str → Except Str (Option KubeEnvironmentPreviewUrl.Model)
  environment : Uuid → Except Str (Option KubeEnvironment.Model)
  service : Uuid → Except Str (Option (KubeEnvironmentService.Model Text))

/-- Source: `resolve_preview_url`. -/
def resolvePreviewUrlReading (reads : Reads Text) (info : PreviewUrlInfo) :
    Except PreviewUrlError PreviewUrlTarget :=
  match reads.previewUrl (slug info) with
  | .error error => .error (.database error)
  | .ok none => .error .previewUrlNotConfigured
  | .ok (some previewUrl) =>
    if previewUrl.port ≠ u16AsInt info.port then .error .previewUrlNotConfigured
    else
      match reads.environment previewUrl.environmentId with
      | .error error => .error (.seaOrm error)
      | .ok none => .error .environmentNotFound
      | .ok (some environment) =>
        match reads.service previewUrl.serviceId with
        | .error error => .error (.database error)
        | .ok none => .error .serviceNotFound
        | .ok (some service) =>
          let expectedServiceEnvironmentId := environment.baseEnvironmentId.getD environment.id
          if service.environmentId ≠ expectedServiceEnvironmentId ∨
              service.name.toList ≠ info.serviceName then
            .error .serviceNotFound
          else
            match PreviewUrlAccessLevel.parse previewUrl.accessLevel with
            | none => .error .accessDenied
            | some accessLevel => .ok {
                clusterId := environment.clusterId
                namespace_ := environment.«namespace»
                serviceName := service.name
                servicePort := info.port
                accessLevel
                protocol := previewUrl.protocol
                environmentId := environment.id
                organizationId := environment.organizationId
                previewUrlId := previewUrl.id }

/-- `resolve_preview_url` where the database answers; `services` are the live services by their
ids. -/
def resolvePreviewUrl (s : HrpcServer Text)
    (services : Uuid → Option (KubeEnvironmentService.Model Text)) (info : PreviewUrlInfo) :
    Except PreviewUrlError PreviewUrlTarget :=
  resolvePreviewUrlReading ⟨fun name => .ok (s.findPreviewUrlByName name),
    fun id => .ok (s.environment id), fun id => .ok (services id)⟩ info

/-- What the proxy makes of the host of a request: `resolve_preview_url_target`. -/
def resolveHost (s : HrpcServer Text)
    (services : Uuid → Option (KubeEnvironmentService.Model Text)) (host : Str) :
    Except PreviewUrlError PreviewUrlTarget :=
  match subdomainOf host with
  | none => .error .invalidFormat
  | some subdomain => (parsePreviewUrl subdomain).bind (resolvePreviewUrl s services)

end

end PreviewUrlResolver

/-! ## A label is taken apart as it was put together -/

section
variable {suffix : Str}

theorem isAlphanum_of_lower {c : Char} (ha : 'a'.val ≤ c.val) (hz : c.val ≤ 'z'.val) :
    c.isAlphanum = true := by
  have hlower : c.isLower = true := Bool.and_eq_true_iff.2 ⟨decide_eq_true ha, decide_eq_true hz⟩
  show (c.isUpper || c.isLower || c.isDigit) = true
  rw [hlower, Bool.or_true, Bool.true_or]

/-- The lowercase of a letter or a digit is one. -/
theorem isAlphanum_toLower {c : Char} (h : c.isAlphanum = true) : c.toLower.isAlphanum = true := by
  unfold Char.toLower
  split
  · next hupper =>
    have hA : 'A'.val.toNat = 65 := rfl
    have hZ : 'Z'.val.toNat = 90 := rfl
    have ha : 'a'.val.toNat = 97 := rfl
    have hz : 'z'.val.toNat = 122 := rfl
    have hoffset : ('a'.val - 'A'.val).toNat = 32 := rfl
    simp only [ge_iff_le, UInt32.le_iff_toNat_le] at hupper
    have hlower : 'a'.val ≤ c.val + ('a'.val - 'A'.val) ∧ c.val + ('a'.val - 'A'.val) ≤ 'z'.val := by
      simp only [UInt32.le_iff_toNat_le, UInt32.toNat_add]
      omega
    exact isAlphanum_of_lower hlower.1 hlower.2
  · exact h

theorem notMem_randString {n : Nat} (sample : AlphanumericSample n) {c : Char}
    (hc : c.isAlphanum = false) : c ∉ randString sample := by
  intro h
  obtain ⟨c', hc', rfl⟩ := List.mem_map.1 h
  rw [isAlphanum_toLower (sample.isAlphanum c' hc')] at hc
  cases hc

/-- The port is in front of the first hyphen and the suffix after the last. -/
theorem parsePreviewUrl_previewName (port : UInt16) (serviceName : Str) (hsuffix : '-' ∉ suffix) :
    PreviewUrlResolver.parsePreviewUrl
        (previewName (Str.ofNat port.toNat) serviceName suffix) =
      .ok ⟨serviceName, port, suffix⟩ := by
  have hport : '-' ∉ Str.ofNat port.toNat := by
    intro h
    have := Str.isDigit_of_mem_ofNat h
    cases this
  have hparts : Str.split '-' (previewName (Str.ofNat port.toNat) serviceName suffix) =
      Str.ofNat port.toNat :: (Str.split '-' serviceName ++ [suffix]) := by
    have hsingle : ∀ {t : Str}, '-' ∉ t → Str.split '-' t = [t] := List.splitOn_eq_singleton
    rw [previewName, Str.split_append_cons, Str.split_append_cons, hsingle hport, hsingle hsuffix]
    rfl
  have hne : Str.split '-' serviceName ≠ [] := List.splitOn_ne_nil _ _
  have hpos := List.length_pos_iff.2 hne
  have hmiddle : ((Str.ofNat port.toNat :: (Str.split '-' serviceName ++ [suffix])).take
      ((Str.ofNat port.toNat :: (Str.split '-' serviceName ++ [suffix])).length - 1)).drop 1 =
      Str.split '-' serviceName := by
    simp
  have hjoin : Str.join ['-'] (Str.split '-' serviceName) = serviceName :=
    List.intercalate_splitOn ..
  have hlast : (Str.ofNat port.toNat :: (Str.split '-' serviceName ++ [suffix])).getLastD [] =
      suffix := by simp [List.getLast?_cons]
  simp only [PreviewUrlResolver.parsePreviewUrl, hparts, hmiddle, hlast, hjoin]
  rw [if_neg (by simp; omega)]
  simp only [List.headD_cons, Str.parseU16_ofNat]

/-- A label is what stands before the first dot. -/
theorem subdomainOf_append {name : Str} (h : '.' ∉ name) (rest : Str) :
    subdomainOf (name ++ '.' :: rest) = some name := by
  have hsingle : Str.split '.' name = [name] := List.splitOn_eq_singleton h
  rw [subdomainOf, Str.split_append_cons, hsingle]
  rfl

/-- No part of a name holds a dot. -/
theorem dot_notMem_previewName (port : UInt16) (label : DnsLabel) (sample : AlphanumericSample 12) :
    '.' ∉ previewName (Str.ofNat port.toNat) label.text (randString sample) := by
  have hport : '.' ∉ Str.ofNat port.toNat := by
    intro h
    have := Str.isDigit_of_mem_ofNat h
    cases this
  have hlabel : '.' ∉ label.text := label.notMem_of_not_isAlphanum rfl (by decide)
  have hsuffix : '.' ∉ randString sample := notMem_randString sample rfl
  simp only [previewName, List.mem_append, List.mem_cons, not_or]
  exact ⟨hport, by decide, hlabel, by decide, hsuffix⟩

end

theorem toList_toString_u16AsInt (port : UInt16) :
    (toString (u16AsInt port)).toList = Str.ofNat port.toNat := by
  have hint : toString (u16AsInt port) = Nat.repr port.toNat := rfl
  rw [hint, Nat.toList_repr]
  rfl

/-- The URL of an answer. -/
theorem toList_url (name : String) : ("https://" ++ name ++ "." ++ "app.lap.dev").toList =
    "https://".toList ++ publishedHost name.toList := by
  rw [String.toList_append, String.toList_append, String.toList_append, List.append_assoc,
    List.append_assoc]
  rfl

theorem PreviewUrlAccessLevel.parse_toString_level (level : PreviewUrlAccessLevel) :
    parse level.toString = some level := by
  cases level <;> rfl

/-! ## A created preview URL resolves to itself -/

section
variable {Text : Type} {s s' : HrpcServer Text}
  {services : Uuid → Option (KubeEnvironmentService.Model Text)}
  {answer : KubeEnvironmentPreviewUrl} {info : PreviewUrlInfo}

/-- The row of a preview URL is still there and not deleted. What an update changes, and the time of
the last access, are free. -/
def Configured (s : HrpcServer Text) (answer : KubeEnvironmentPreviewUrl) : Prop :=
  ∃ r ∈ s.previewUrls.rows, r.id = answer.id ∧ r.deletedAt = none ∧ r.name = answer.name ∧
    r.port = answer.port ∧ r.environmentId = answer.environmentId ∧
    r.serviceId = answer.serviceId ∧
    ∃ level : PreviewUrlAccessLevel, r.accessLevel = level.toString

/-- The environment and the service of a preview URL are there, the service in the environment or
in the base of it. -/
def Served (s : HrpcServer Text) (services : Uuid → Option (KubeEnvironmentService.Model Text))
    (answer : KubeEnvironmentPreviewUrl) (label : DnsLabel) : Prop :=
  ∃ environment service, s.environment answer.environmentId = some environment ∧
    services answer.serviceId = some service ∧
    service.environmentId = environment.baseEnvironmentId.getD environment.id ∧
    service.name.toList = label.text

/-- A name that is configured is found, and with it its row. -/
theorem findPreviewUrlByName_of_configured (h : Configured s answer) :
    ∃ r, s.findPreviewUrlByName answer.name.toList = some r ∧ r.id = answer.id ∧
      r.port = answer.port ∧ r.environmentId = answer.environmentId ∧
      r.serviceId = answer.serviceId ∧
      ∃ level : PreviewUrlAccessLevel, r.accessLevel = level.toString := by
  obtain ⟨r, hr, hid, hdeleted, hname, hport, henvironment, hservice, hlevel⟩ := h
  refine ⟨r, ?_, hid, hport, henvironment, hservice, hlevel⟩
  refine Table.one_eq_some hr (by simp [hname, hdeleted]) fun r' hr' hp => ?_
  simp only [Bool.and_eq_true, decide_eq_true_eq] at hp
  refine s.previewUrls.eq_of_conflict hr' hr (.inr (.inl ⟨?_, ?_⟩))
  · rw [String.toList_inj.1 hp.1, hname]
  · rw [hp.2, hdeleted]

/-- No other preview URL is resolved by the name of one. -/
theorem previewUrlId_of_resolvePreviewUrl {target : PreviewUrlTarget} (h : Configured s answer)
    (hslug : PreviewUrlResolver.slug info = answer.name.toList)
    (hok : PreviewUrlResolver.resolvePreviewUrl s services info = .ok target) :
    target.previewUrlId = answer.id := by
  obtain ⟨r, hfind, hid, _⟩ := findPreviewUrlByName_of_configured h
  simp only [PreviewUrlResolver.resolvePreviewUrl, PreviewUrlResolver.resolvePreviewUrlReading, hslug,
    hfind] at hok
  split at hok
  · cases hok
  · split at hok
    · cases hok
    · cases hok
    · split at hok
      · cases hok
      · cases hok
      · split at hok
        · cases hok
        · split at hok
          · cases hok
          · cases hok
            exact hid

/-- A preview URL is resolved as long as its environment and its service are there. -/
theorem resolvePreviewUrl_of_served {label : DnsLabel} (h : Configured s answer)
    (hslug : PreviewUrlResolver.slug info = answer.name.toList)
    (hport : answer.port = u16AsInt info.port) (hname : info.serviceName = label.text)
    (hserved : Served s services answer label) :
    ∃ target, PreviewUrlResolver.resolvePreviewUrl s services info = .ok target ∧
      target.previewUrlId = answer.id ∧ target.servicePort = info.port ∧
      target.serviceName.toList = label.text ∧ target.environmentId = answer.environmentId := by
  obtain ⟨r, hfind, hid, hrport, henvironmentId, hserviceId, level, hlevel⟩ :=
    findPreviewUrlByName_of_configured h
  obtain ⟨environment, service, henvironment, hservice, hbase, hsname⟩ := hserved
  have hsame : ¬r.port ≠ u16AsInt info.port := not_not.2 (hrport.trans hport)
  have hright : ¬(service.environmentId ≠ environment.baseEnvironmentId.getD environment.id ∨
      service.name.toList ≠ info.serviceName) := by
    simp [hbase, hsname, hname]
  have hid' : environment.id = answer.environmentId := by
    have hp := (Table.mem_of_one henvironment).2
    simp only [Bool.and_eq_true, decide_eq_true_eq] at hp
    exact hp.1
  rw [← henvironmentId] at henvironment
  rw [← hserviceId] at hservice
  simp only [PreviewUrlResolver.resolvePreviewUrl, PreviewUrlResolver.resolvePreviewUrlReading, hslug,
    hfind, henvironment, hservice, hlevel, PreviewUrlAccessLevel.parse_toString_level]
  rw [if_neg hsame, if_neg hright]
  exact ⟨_, rfl, hid, rfl, hsname, hid'⟩

/-- What a creation that succeeds has checked and written. -/
theorem run_createPreviewUrl_eq_ok {environment : KubeEnvironment.Model} {userId : Uuid}
    {request : CreateKubeEnvironmentPreviewUrlRequest} {service : KubeEnvironmentService.Model Text}
    {previewUrlId : Uuid} {suffix : String} {now : Timestamp}
    (h : (HrpcServer.createPreviewUrl environment userId request (some service) previewUrlId suffix
      now).run s = (.ok answer, s')) :
    service.environmentId = environment.baseEnvironmentId.getD environment.id ∧
      answer = .ofRow (HrpcServer.newPreviewUrl previewUrlId suffix environment service userId
        request now) ∧
      HrpcServer.newPreviewUrl previewUrlId suffix environment service userId request now ∈
        s'.previewUrls.rows ∧
      s'.db = s.db := by
  unfold HrpcServer.createPreviewUrl at h
  obtain ⟨service', hsome, h⟩ := Program.run_orFail_bind_eq_ok.1 h
  cases hsome
  obtain ⟨⟨⟩, hcheck, h⟩ := Program.run_ofExcept_bind_eq_ok.1 h
  obtain ⟨⟨⟩, s₃, hinsert, hdone⟩ := Program.run_bind_eq_ok.1 h
  cases hdone
  obtain ⟨t, ht, rfl⟩ := HrpcServer.run_onPreviewUrls_eq_ok.1 hinsert
  refine ⟨?_, rfl, (Table.mem_insert ht).2 (.inr rfl), rfl⟩
  unfold HrpcServer.checkService at hcheck
  split at hcheck
  · cases hcheck
  · next hbase =>
    split at hcheck
    · cases hcheck
    · next hown =>
      cases hid : environment.baseEnvironmentId with
      | none => simpa [hid] using hown
      | some base => simpa [hid] using hbase

/-- What follows the name of a host, such as a port, is not looked at. -/
theorem subdomainOf_publishedHost {name : Str} (h : '.' ∉ name) (hostPort : Str) :
    subdomainOf (publishedHost name ++ hostPort) = some name := by
  rw [publishedHost, List.append_assoc]
  exact subdomainOf_append h _

/-- The label of a published host is taken apart into the port, the service and the suffix it was
made of, which give the name again; and as long as a created preview URL is there, its host resolves
to no other one, and to it where its environment and its service are there. -/
theorem publishedHost_resolves (port : UInt16) (label : DnsLabel)
    (sample : AlphanumericSample 12) :
    (∀ hostPort, subdomainOf (publishedHost
        (previewName (Str.ofNat port.toNat) label.text (randString sample)) ++ hostPort) =
      some (previewName (Str.ofNat port.toNat) label.text (randString sample))) ∧
    PreviewUrlResolver.parsePreviewUrl
        (previewName (Str.ofNat port.toNat) label.text (randString sample)) =
      .ok ⟨label.text, port, randString sample⟩ ∧
    PreviewUrlResolver.slug ⟨label.text, port, randString sample⟩ =
      previewName (Str.ofNat port.toNat) label.text (randString sample) ∧
    ∀ (Text : Type) (s s' : HrpcServer Text) environment userId request
        (service : KubeEnvironmentService.Model Text) previewUrlId now answer,
      (HrpcServer.createPreviewUrl environment userId request (some service) previewUrlId
        (String.ofList (randString sample)) now).run s = (.ok answer, s') →
      request.port = u16AsInt port → service.name.toList = label.text →
      answer.name.toList =
        previewName (Str.ofNat port.toNat) label.text (randString sample) ∧
      answer.url.toList = "https://".toList ++ publishedHost answer.name.toList ∧
      Configured s' answer ∧
      (∀ services, s.environment environment.id = some environment →
        services request.serviceId = some service → Served s' services answer label) ∧
      ∀ (later : HrpcServer Text) services, Configured later answer → ∀ hostPort,
        (∀ target, PreviewUrlResolver.resolveHost later services
            (publishedHost answer.name.toList ++ hostPort) = .ok target →
          target.previewUrlId = answer.id) ∧
        (Served later services answer label → ∃ target,
          PreviewUrlResolver.resolveHost later services
            (publishedHost answer.name.toList ++ hostPort) = .ok target ∧
          target.previewUrlId = answer.id ∧ target.servicePort = port ∧
          target.serviceName.toList = label.text ∧
          target.environmentId = answer.environmentId) := by
  have hlabel := subdomainOf_publishedHost (dot_notMem_previewName port label sample)
  have hparse := parsePreviewUrl_previewName port label.text (notMem_randString sample rfl)
  refine ⟨hlabel, hparse, rfl, ?_⟩
  intro Text s s' environment userId request service previewUrlId now answer hcreated hport hname
  obtain ⟨hbase, hanswer, hmem, hdb⟩ := run_createPreviewUrl_eq_ok hcreated
  have hanswerName : answer.name.toList =
      previewName (Str.ofNat port.toNat) label.text (randString sample) := by
    have hhyphen : "-".toList = ['-'] := rfl
    rw [hanswer]
    simp only [KubeEnvironmentPreviewUrl.ofRow, HrpcServer.newPreviewUrl, String.toList_append,
      hport, toList_toString_u16AsInt, hname, String.toList_ofList, previewName, hhyphen,
      List.append_assoc, List.cons_append, List.nil_append]
  have hurl : answer.url.toList = "https://".toList ++ publishedHost answer.name.toList := by
    rw [hanswer]
    exact toList_url _
  have hanswerPort : answer.port = u16AsInt port := by rw [hanswer, ← hport]; rfl
  have hresolve : ∀ (later : HrpcServer Text) services hostPort,
      PreviewUrlResolver.resolveHost later services
        (publishedHost answer.name.toList ++ hostPort) =
      PreviewUrlResolver.resolvePreviewUrl later services
        ⟨label.text, port, randString sample⟩ := by
    intro later services hostPort
    simp only [PreviewUrlResolver.resolveHost, hanswerName, hlabel, hparse]
    rfl
  have hslug : PreviewUrlResolver.slug ⟨label.text, port, randString sample⟩ =
      answer.name.toList := hanswerName.symm
  refine ⟨hanswerName, hurl, ?_, ?_, ?_⟩
  · exact ⟨_, hmem, by rw [hanswer]; rfl, rfl, by rw [hanswer]; rfl, by rw [hanswer]; rfl,
      by rw [hanswer]; rfl, by rw [hanswer]; rfl, _, rfl⟩
  · intro services henvironment hservice
    have hfound : s'.environment environment.id = some environment := by
      rw [HrpcServer.environment, hdb]
      exact henvironment
    rw [hanswer]
    exact ⟨environment, service, hfound, hservice, hbase, hname⟩
  · intro later services hconfigured hostPort
    rw [hresolve]
    constructor
    · intro target hok
      exact previewUrlId_of_resolvePreviewUrl hconfigured hslug hok
    · intro hserved
      exact resolvePreviewUrl_of_served hconfigured hslug hanswerPort rfl hserved

end

/-- A service name with a hyphen and a digit. -/
def previewLabel : DnsLabel where
  text := "web-2".toList
  length_pos := by decide
  length_le := by decide
  chars := by
    intro c hc
    have hall := List.all_eq_true.1
      (rfl : "web-2".toList.all (fun c => c.isAlphanum || decide (c = '-')) = true) c hc
    simpa using hall
  head := by decide
  last := by decide

/-- A suffix. -/
def previewSample : AlphanumericSample 12 where
  chars := "A1b2C3d4E5f6".toList
  length := rfl
  isAlphanum := List.all_eq_true.1 rfl

/-- An environment. -/
def previewEnvironment : KubeEnvironment.Model where
  id := 1
  deletedAt := none
  organizationId := 1
  userId := 1
  appCatalogId := 1
  clusterId := 1
  name := "dev"
  «namespace» := "dev"
  status := "Running"
  isShared := false
  catalogSyncVersion := 0
  lastCatalogSyncedAt := none
  syncStatus := "idle"
  baseEnvironmentId := none
  authToken := ""

/-- The service of it. -/
def previewService : KubeEnvironmentService.Model Unit where
  createdAt := 0
  deletedAt := none
  environmentId := 1
  name := "web-2"
  «namespace» := "dev"
  yaml := ()
  ports := [⟨none, 8080, none, none, none, none⟩]
  selector := ∅

/-- A server with the environment. -/
def previewServer : HrpcServer Unit where
  db := { Database.empty Unit with
    environments := ⟨[previewEnvironment], List.pairwise_singleton _ _⟩ }
  users := .empty
  members := .empty
  previewUrls := .empty

theorem publishedHost_resolves_web :
    ∃ (later : HrpcServer Unit) (target : PreviewUrlTarget),
      PreviewUrlResolver.resolveHost later (fun id => if id = 2 then some previewService else none)
        "8080-web-2-a1b2c3d4e5f6.app.lap.dev:443".toList = .ok target ∧
      target.previewUrlId = 3 := by
  obtain ⟨answer, later, hcreated, hanswer⟩ : ∃ answer later,
      (HrpcServer.createPreviewUrl previewEnvironment 1 ⟨none, 2, 8080, none, none, none⟩
        (some previewService) 3 (String.ofList (randString previewSample)) 0).run previewServer =
        (.ok answer, later) ∧ answer.id = 3 := ⟨_, _, rfl, rfl⟩
  obtain ⟨_, _, _, hruns⟩ := publishedHost_resolves 8080 previewLabel previewSample
  obtain ⟨hname, _, hconfigured, hserved, hlater⟩ := hruns Unit previewServer later previewEnvironment 1
    ⟨none, 2, 8080, none, none, none⟩ previewService 3 0 answer hcreated rfl rfl
  obtain ⟨target, hok, hid, _⟩ := (hlater _ _ hconfigured ":443".toList).2
    (hserved (fun id => if id = 2 then some previewService else none) rfl rfl)
  refine ⟨later, target, ?_, hid.trans hanswer⟩
  rw [hname] at hok
  exact hok

end Lapdev
