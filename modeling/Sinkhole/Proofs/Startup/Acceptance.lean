import Sinkhole.Proofs.Net.ServerName
import Sinkhole.Proofs.Resolver.Rotation
import Sinkhole.Proofs.Settings.Endpoints
import Sinkhole.Startup.Service

/-!
# What accepted settings come to

Settings are checked once, before anything is made of them. With settings that pass, some of what
is checked again later cannot fail: there is a nameserver to take turns with, something to listen
on, and a name for the certificate if one is needed.

The check does not look at the port on which nameservers are asked, and of the name for the
certificate it sees only whether it is blank. So settings can pass with which no query comes
through, or with which nothing starts.
-/

namespace Sinkhole

/-! ## The check -/

namespace Settings

theorem hasServerName_iff {upstream : Upstream} :
    hasServerName upstream = true ↔
      ∃ name, upstream.tlsServerName = some name ∧ Text.trimmed name.toList ≠ [] := by
  simp [hasServerName, Option.any_eq_true]

/-- Settings are accepted if there is something to listen on, a nameserver, and for TLS a name
that is not blank. -/
theorem defect?_eq_none_iff {settings : Settings} :
    settings.defect? = none ↔
      (settings.server.udpListen ≠ none ∨ settings.server.tcpListen ≠ none) ∧
        settings.upstream.nameservers ≠ [] ∧
        (settings.upstream.transport = .tls →
          ∃ name, settings.upstream.tlsServerName = some name ∧
            Text.trimmed name.toList ≠ []) := by
  rw [← hasServerName_iff]
  unfold defect?
  split
  · next silent => simp_all
  · next listening =>
      have heard : settings.server.udpListen ≠ none ∨ settings.server.tcpListen ≠ none := by
        simpa [← not_and_or] using listening
      split
      · next nameless => simp_all
      · next named =>
          have nonempty : settings.upstream.nameservers ≠ [] := by simpa using named
          simp [heard, nonempty]

end Settings

/-! ## Listeners -/

namespace Server.Listeners

/-- Whatever the system refuses, setting up listeners does not fail for want of a port. -/
theorem setUp_ne_noPort
    (refusal : Arrival → Net.Endpoint → Option String)
    (endpoints : List (Arrival × Net.Endpoint)) :
    (setUp refusal endpoints).1 ≠ .error .noPort := by
  induction endpoints with
  | nil => simp [setUp]
  | cons first rest hypothesis =>
      rw [setUp]
      split
      · simp
      · exact hypothesis

theorem start_ne_noPort
    {listeners : Listeners}
    (configured : listeners.endpoints ≠ [])
    (refusal : Arrival → Net.Endpoint → Option String) :
    (start refusal listeners).1 ≠ .error .noPort := by
  rw [start, if_neg configured]
  exact setUp_ne_noPort refusal listeners.endpoints

end Server.Listeners

/-! ## Starting -/

namespace Startup

variable
  {convert : String → Option String}
  {read : Net.ServerName.Reading}
  {file : String → File}
  {settings : Settings}

/-- Accepted settings have something to listen on. -/
theorem endpoints_listeners_ne_nil (accepted : settings.defect? = none) :
    (listeners settings.server).endpoints ≠ [] := by
  obtain ⟨heard, _⟩ := Settings.defect?_eq_none_iff.mp accepted
  rw [listeners, Server.Listeners.endpoints]
  rcases heard with datagrams | connections
  · obtain ⟨port, port_eq⟩ := Option.ne_none_iff_exists'.mp datagrams
    simp [port_eq]
  · obtain ⟨port, port_eq⟩ := Option.ne_none_iff_exists'.mp connections
    simp [port_eq]

/-- Accepted settings have a nameserver to take turns with. -/
theorem exists_rotation (accepted : settings.defect? = none) :
    ∃ rotation, Rotation.ofArray? settings.upstream.endpoints.toArray = some rotation := by
  obtain ⟨_, named, _⟩ := Settings.defect?_eq_none_iff.mp accepted
  have positive : 0 < settings.upstream.endpoints.toArray.size := by
    rw [List.size_toArray, Settings.Upstream.length_endpoints, Finset.card_pos,
      List.toFinset_nonempty_iff]
    exact named
  exact ⟨_, dif_pos positive⟩

/-- The failure to find a carrier for accepted settings is about the name that they have. -/
theorem contexts_ne_nil_of_carrier
    {failure : Failure}
    (accepted : settings.defect? = none)
    (failed : carrier read settings.upstream = .error failure) :
    failure.contexts ≠ [] := by
  obtain ⟨_, _, secured⟩ := Settings.defect?_eq_none_iff.mp accepted
  unfold carrier at failed
  split at failed
  · cases failed
  · cases failed
  · unfold Upstream.Carrier.secure? at failed
    split at failed
    · cases failed
    · cases failed
      simp
  · next isTls missing =>
      obtain ⟨name, name_eq, _⟩ := secured isTls
      rw [missing] at name_eq
      cases name_eq

/-- Accepted settings are not refused again. -/
theorem withSettings_ne_defectFailure
    (accepted : settings.defect? = none)
    (defect : Settings.Defect) :
    (withSettings convert read file settings).1 ≠ .error (defectFailure defect) := by
  intro refused
  obtain ⟨rotation, made⟩ := exists_rotation accepted
  simp only [withSettings, accepted, made, withNames] at refused
  split at refused
  · cases refused
  · split at refused
    · next failure failed =>
        cases refused
        exact contexts_ne_nil_of_carrier accepted failed rfl
    · cases refused

/-- A service that starts takes turns with the endpoints of its settings, from the first, and
listens where they say. -/
theorem exists_of_withSettings
    {service : Service}
    (started : (withSettings convert read file settings).1 = .ok service) :
    Rotation.ofArray? settings.upstream.endpoints.toArray = some service.rotation ∧
      carrier read settings.upstream = .ok service.carrier ∧
      service.listeners = listeners settings.server := by
  unfold withSettings at started
  split at started
  · cases started
  · split at started
    · cases started
    · next rotation made =>
        simp only [withNames] at started
        split at started
        · cases started
        · split at started
          · cases started
          · next found =>
              cases started
              exact ⟨made, found, rfl⟩

/-- The endpoints that are asked are the nameservers of the settings, each once and in the order
in which they are first named, on the port of the settings. With accepted settings they can be
taken in turn, and each has its turn once, in this order, before any has it again. There is
something to listen on, and neither the listeners nor the carrier is refused for want of it. -/
theorem accepted_settings_reach_rotation :
    (∀ upstream : Settings.Upstream,
        upstream.endpoints.Nodup ∧
          (∀ endpoint, endpoint ∈ upstream.endpoints ↔
            ∃ address ∈ upstream.nameservers,
              endpoint = { address, port := upstream.askedPort }) ∧
          upstream.endpoints.Pairwise fun earlier later =>
            upstream.nameservers.idxOf earlier.address <
              upstream.nameservers.idxOf later.address) ∧
      ∀ settings : Settings, settings.defect? = none →
        (∃ rotation,
            Rotation.ofArray? settings.upstream.endpoints.toArray = some rotation ∧
              (rotation.take settings.upstream.nameservers.toFinset.card).1 =
                settings.upstream.endpoints ∧
              ∀ convert read file service,
                (withSettings convert read file settings).1 = .ok service →
                  service.rotation = rotation ∧
                    service.listeners = listeners settings.server) ∧
          (listeners settings.server).endpoints ≠ [] ∧
          (∀ refusal,
            (Server.Listeners.start refusal (listeners settings.server)).1 ≠ .error .noPort) ∧
          (∀ read, carrier read settings.upstream ≠ .error (defectFailure .noServerName)) ∧
          ∀ convert read file defect,
            (withSettings convert read file settings).1 ≠ .error (defectFailure defect) := by
  refine ⟨fun upstream => ⟨upstream.nodup_endpoints, fun endpoint => ?_, ?_⟩, ?_⟩
  · exact Settings.Upstream.mem_endpoints_iff
  · exact upstream.pairwise_endpoints
  · intro settings accepted
    obtain ⟨rotation, made⟩ := exists_rotation accepted
    have listening := endpoints_listeners_ne_nil accepted
    refine
      ⟨⟨rotation, made, ?_, fun convert read file service started => ?_⟩, listening, ?_, ?_, ?_⟩
    · rw [← Settings.Upstream.length_endpoints, ← List.size_toArray,
        Rotation.take_eq_take_items made (Nat.le_refl _)]
      exact List.take_length
    · obtain ⟨served, _, listeners_eq⟩ := exists_of_withSettings started
      exact ⟨Option.some.inj (served.symm.trans made), listeners_eq⟩
    · exact Server.Listeners.start_ne_noPort listening
    · exact fun read failed => contexts_ne_nil_of_carrier accepted failed rfl
    · exact fun convert read file defect => withSettings_ne_defectFailure accepted defect

/-- Two nameservers over TLS, one of them named three times, and a port that is zero. -/
theorem accepted_settings_reach_rotation_repeated :
    let first : Net.Address := .ipv4 (.ofOctets 9 9 9 9)
    let second : Net.Address := .ipv4 (.ofOctets 1 1 1 1)
    let settings : Settings :=
      { server := { udpPort := some 0, tcpPort := some 53 }
        upstream := {
          nameservers := [first, second, first, first]
          transport := .tls
          tlsServerName := some "dns.example" } }
    settings.defect? = none ∧
      settings.upstream.endpoints = [{ address := first, port := 853 },
        { address := second, port := 853 }] ∧
      ∃ rotation,
        Rotation.ofArray? settings.upstream.endpoints.toArray = some rotation ∧
          (rotation.take 2).1 = settings.upstream.endpoints := by
  intro first second settings
  have accepted : settings.defect? = none := by decide
  have endpoints_eq : settings.upstream.endpoints = [{ address := first, port := 853 },
      { address := second, port := 853 }] := by
    decide
  have two : settings.upstream.nameservers.toFinset.card = 2 := by decide
  obtain ⟨⟨rotation, made, turns, _⟩, _⟩ := accepted_settings_reach_rotation.2 settings accepted
  rw [two] at turns
  exact ⟨accepted, endpoints_eq, rotation, made, turns⟩

/-! ## What the check does not see -/

/-- Accepted settings ask on a port other than zero unless they name zero. -/
theorem forall_endpoints_port_ne_zero_iff (accepted : settings.defect? = none) :
    (∀ endpoint ∈ settings.upstream.endpoints, endpoint.port ≠ 0) ↔
      settings.upstream.port ≠ some 0 := by
  obtain ⟨_, named, _⟩ := Settings.defect?_eq_none_iff.mp accepted
  obtain ⟨address, member⟩ := List.exists_mem_of_ne_nil _ named
  have asked_iff : settings.upstream.askedPort ≠ 0 ↔ settings.upstream.port ≠ some 0 := by
    rw [Settings.Upstream.askedPort]
    cases settings.upstream.port with
    | none => cases settings.upstream.transport <;> decide
    | some port => simp
  rw [← asked_iff]
  constructor
  · intro nonzero
    exact nonzero _ (Settings.Upstream.mem_endpoints_iff.mpr ⟨address, member, rfl⟩)
  · intro nonzero endpoint asked
    obtain ⟨_, _, rfl⟩ := Settings.Upstream.mem_endpoints_iff.mp asked
    exact nonzero

theorem exists_secure?_iff {name : String} :
    (∃ found, Upstream.Carrier.secure? read name = .ok found) ↔
      ∃ server, read name = .ok server := by
  rw [Upstream.Carrier.secure?]
  cases read name <;> simp

/-- Accepted settings have a carrier unless they ask for TLS with a name that cannot be read as it
is given. -/
theorem exists_carrier_iff (accepted : settings.defect? = none) :
    (∃ found, carrier read settings.upstream = .ok found) ↔
      (settings.upstream.transport = .tls →
        ∃ name, settings.upstream.tlsServerName = some name ∧
          ∃ server, read name = .ok server) := by
  obtain ⟨_, _, secured⟩ := Settings.defect?_eq_none_iff.mp accepted
  cases transport : settings.upstream.transport with
  | udp => simp [carrier, transport]
  | tcp => simp [carrier, transport]
  | tls =>
      obtain ⟨name, name_eq, _⟩ := secured transport
      simp only [carrier, transport, name_eq, exists_secure?_iff, Option.some.injEq, true_implies,
        exists_eq_left']

/-- A name with a blank at an end is refused as it is given. -/
theorem exists_error_of_trimmed_ne
    (names : read.NamesOnly)
    {name : String}
    (spaced : Text.trimmed name.toList ≠ name.toList) :
    ∃ cause, read name = .error cause ∧
      Upstream.Carrier.secure? read name =
        .error { contexts := ["invalid tls server name: " ++ name], cause } := by
  cases found : read name with
  | ok server => exact absurd (names.unspaced_of_read found).trimmed_eq spaced
  | error cause =>
      refine ⟨cause, rfl, ?_⟩
      rw [Upstream.Carrier.secure?, found]

/-- Whether accepted settings can be used is for two things to decide that the check does not see.
All endpoints that are asked have a port other than zero unless the settings name zero, which
they may. There is a carrier unless the name for TLS cannot be read as one that a certificate can
be checked against, which need not be so as long as it is not blank; a name with a blank at an end
is refused. -/
theorem accepted_settings_usable_iff
    {read : Net.ServerName.Reading}
    (names : read.NamesOnly)
    (settings : Settings)
    (accepted : settings.defect? = none) :
    ((∀ endpoint ∈ settings.upstream.endpoints, endpoint.port ≠ 0) ↔
        settings.upstream.port ≠ some 0) ∧
      ((∃ found, carrier read settings.upstream = .ok found) ↔
        (settings.upstream.transport = .tls →
          ∃ name, settings.upstream.tlsServerName = some name ∧
            ∃ server, read name = .ok server)) ∧
      (∀ name, settings.upstream.transport = .tls →
        settings.upstream.tlsServerName = some name →
          Text.trimmed name.toList ≠ name.toList →
            ∃ cause, read name = .error cause ∧
              carrier read settings.upstream =
                .error { contexts := ["invalid tls server name: " ++ name], cause }) ∧
      (∀ port,
        ({ settings with upstream := { settings.upstream with port } } : Settings).defect? =
          none) ∧
      ∀ name : String, Text.trimmed name.toList ≠ [] →
        ({ settings with
            upstream := { settings.upstream with tlsServerName := some name } } :
          Settings).defect? = none := by
  refine ⟨forall_endpoints_port_ne_zero_iff accepted, exists_carrier_iff accepted, ?_, ?_, ?_⟩
  · intro name transport name_eq spaced
    rw [carrier, transport, name_eq]
    exact exists_error_of_trimmed_ne names spaced
  · intro port
    exact Settings.defect?_eq_none_iff.mpr (Settings.defect?_eq_none_iff.mp accepted)
  · intro name notBlank
    obtain ⟨heard, named, _⟩ := Settings.defect?_eq_none_iff.mp accepted
    exact Settings.defect?_eq_none_iff.mpr ⟨heard, named, fun _ => ⟨name, rfl, notBlank⟩⟩

/-- Blanks around a name that is fine without them, and no port, with the reading that the program
is given. -/
theorem accepted_settings_usable_iff_spaced :
    let settings : Settings :=
      { upstream := {
          nameservers := [.ipv4 (.ofOctets 9 9 9 9)]
          transport := .tls
          tlsServerName := some " dns.example " } }
    Net.ServerName.Reading.NamesOnly Net.ServerName.read ∧
      settings.defect? = none ∧
      (∀ endpoint ∈ settings.upstream.endpoints, endpoint.port ≠ 0) ∧
      Net.ServerName.read "dns.example" = .ok (.host "dns.example") ∧
      carrier Net.ServerName.read settings.upstream =
        .error {
          contexts := ["invalid tls server name:  dns.example "]
          cause := "invalid dns name" } := by
  intro settings
  have names := Net.ServerName.namesOnly_read
  have accepted : settings.defect? = none := by decide
  have unread : Net.ServerName.read " dns.example " = .error "invalid dns name" := by decide
  obtain ⟨ports, _, spaced, _⟩ := accepted_settings_usable_iff names settings accepted
  obtain ⟨cause, refused, uncarried⟩ := spaced " dns.example " rfl rfl (by decide)
  cases unread.symm.trans refused
  exact ⟨names, accepted, ports.mpr (by decide), by decide, uncarried⟩

/-- Settings with a port that is zero and a name that is refused are accepted. -/
theorem unusable_settings_accepted :
    let address : Net.Address := .ipv4 (.ofOctets 9 9 9 9)
    let settings : Settings :=
      { server := { udpPort := some 53 }
        upstream := {
          nameservers := [address]
          transport := .tls
          tlsServerName := some " dns.example "
          port := some 0 } }
    settings.defect? = none ∧
      settings.upstream.endpoints = [{ address, port := 0 }] ∧
      ∀ read : Net.ServerName.Reading, read.NamesOnly →
        ∃ cause, carrier read settings.upstream =
          .error { contexts := ["invalid tls server name:  dns.example "], cause } := by
  intro address settings
  refine ⟨by decide, by decide, fun read names => ?_⟩
  have spaced : Text.trimmed " dns.example ".toList ≠ " dns.example ".toList := by decide
  obtain ⟨cause, _, refused⟩ := exists_error_of_trimmed_ne names spaced
  exact ⟨cause, refused⟩

end Startup
end Sinkhole
