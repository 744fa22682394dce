import AgentLedger.Proofs.Client.Refinement
import AgentLedger.Proofs.Url.Reader
/-!
# What the URL of a request says

The path of a request's URL is the client's own path and one segment for each
word or argument. Arguments that are carried can be read off it again, so that
no two calls share a URL. Arguments of dots, and those with tabs or line
breaks, are not told apart.
-/

namespace AgentLedger

open Client (Conversation)

namespace Url

/-- All that texts add to a URL is in its path. -/
theorem pathChars_of_text {u : Url} {segments segments' : List String}
    (h : (u.extend segments).text = (u.extend segments').text) :
    pathChars (u.extend segments).path = pathChars (u.extend segments').path := by
  have chars : (u.extend segments).chars = (u.extend segments').chars := by
    rw [← String.toList_ofList (l := (u.extend segments).chars), ← text, h, text, String.toList_ofList]
  have request : (u.extend segments).requestChars = (u.extend segments').requestChars :=
    List.append_cancel_right chars
  have target : (u.extend segments).targetChars = (u.extend segments').targetChars :=
    List.append_cancel_left request
  exact List.append_cancel_right target

theorem segments_of_text {u : Url} {word word' : String} (h : IsCarried word) (h' : IsCarried word') (named : word ≠ "")
    (named' : word' ≠ "") {segments segments' : List String} (carried : ∀ s ∈ segments, IsCarried s)
    (carried' : ∀ s ∈ segments', IsCarried s)
    (same : (u.extend (word :: segments)).text = (u.extend (word' :: segments')).text) :
    word :: segments = word' :: segments' := by
  have slash (segments : List String) : ∀ s ∈ segments.map sent, '/' ∉ s := by
    intro s hs
    obtain ⟨t, -, rfl⟩ := List.mem_map.mp hs
    exact not_mem_sent (by decide) (by decide) (by decide) t
  have paths := pathChars_of_text same
  rw [extend_path h named carried, extend_path h' named' carried', pathChars_append, pathChars_append,
    List.append_cancel_left_eq] at paths
  have cut := congrArg (Text.split '/') paths
  rw [Service.Route.split_pathChars (slash _), Service.Route.split_pathChars (slash _)] at cut
  exact (List.map_inj_right fun s t => sent_injective).mp (List.cons.inj cut).2

end Url

/-! ## Calls -/

def Client.Conversation.first? {α : Type} : Conversation α → Option Client.Request
  | .done _ => none
  | .ask r _ => some r

namespace Errand
variable {α β : Type}

def path : Errand α → List String
  | .addWallet _ => ["wallets"]
  | .readWallet agent => ["wallets", agent]
  | .readBalances agent => ["wallets", agent, "balances"]
  | .readBalance agent asset => ["wallets", agent, "balances", asset.chain, asset.token]
  | .openChannel .. => ["channels"]
  | .pay _ channel _ => ["channels", channel, "payments"]
  | .closeChannel _ channel => ["channels", channel]
  | .readChannels agent => ["wallets", agent, "channels"]

theorem first?_conversation (c : Client) (e : Errand α) :
    (e.conversation c).first?.map (·.url) = some (c.endpoint e.path) := by
  cases e <;> rfl

/-- The first segment is a word, and so are those of the others that are no arguments. -/
theorem path_eq (e : Errand α) : ∃ word segments, e.path = word :: segments ∧ IsCarried word ∧ word ≠ "" ∧
    ((∀ s ∈ segments, IsCarried s) ↔ ∀ x ∈ e.inPath, IsCarried x) := by
  have balances : IsCarried "balances" := by decide
  have channels : IsCarried "channels" := by decide
  have payments : IsCarried "payments" := by decide
  have wallets : IsCarried "wallets" := by decide
  cases e <;> refine ⟨_, _, rfl, by assumption, by decide, ?_⟩ <;> simp [inPath, balances, channels, payments]

theorem inPath_of_path {e : Errand α} {e' : Errand β} (h : e.path = e'.path) : e.inPath = e'.inPath := by
  cases e <;> cases e' <;> simp_all [path, inPath]

/-- What a client's URLs say: each path is the client's own without its trailing slash, and behind it one segment for
each word or argument that decodes to it, exactly if the arguments are carried; and then no other arguments, of
the same call or of another, give the same URL. -/
theorem url_tells_arguments {config : Client.Config} {c : Client} (accepted : Client.ofConfig config = .ok c) :
    (c.base.path ≠ [[], []] →
      Url.pathChars (Url.stem c.base.path) = Url.withoutSlash (Url.pathChars c.base.path)) ∧
    ∀ {α : Type} (e : Errand α), (e.conversation c).first?.map (·.url) = some (c.endpoint e.path) ∧
      ((∃ added, (c.endpoint e.path).path = Url.stem c.base.path ++ added ∧
          added.map Text.percentDecoded = e.path.map fun s => Text.utf8 s.toList) ↔
        ∀ x ∈ e.inPath, IsCarried x) ∧
      ((∀ x ∈ e.inPath, IsCarried x) → ∀ {β : Type} (e' : Errand β), (∀ x ∈ e'.inPath, IsCarried x) →
        (c.endpoint e.path).text = (c.endpoint e'.path).text → e.path = e'.path ∧ e.inPath = e'.inPath) := by
  have base : Url.IsPath c.base.path := by
    unfold Client.ofConfig at accepted
    split at accepted <;> cases accepted
    exact Url.read_isPath (by assumption)
  refine ⟨Url.pathChars_stem base, fun e => ⟨e.first?_conversation c, ?_, fun carried β e' carried' same => ?_⟩⟩
  · obtain ⟨word, segments, path, h, named, arguments⟩ := e.path_eq
    rw [path, ← arguments]
    exact Url.extend_spells_iff h named segments
  · obtain ⟨word, segments, path, h, named, arguments⟩ := e.path_eq
    obtain ⟨word', segments', path', h', named', arguments'⟩ := e'.path_eq
    have paths : e.path = e'.path := by
      rw [path, path'] at same ⊢
      exact Url.segments_of_text h h' named named' (arguments.mpr carried) (arguments'.mpr carried') same
    exact ⟨paths, inPath_of_path paths⟩

/-- A slash in an agent's name, and the text that it is encoded as, are two names. -/
theorem slash_told_apart : ∃ c, Client.ofConfig {} = .ok c ∧
    (c.endpoint (readWallet "a/b").path).text ≠ (c.endpoint (readWallet "a%2Fb").path).text := by
  obtain ⟨c, made, -⟩ := ofConfig_default
  refine ⟨c, made, fun same => ?_⟩
  obtain ⟨-, names⟩ := ((url_tells_arguments made).2 (readWallet "a/b")).2.2 (by decide) (readWallet "a%2Fb") (by decide)
    same
  exact absurd names (by decide)

def walletUrls (base : String) (agents : List String) : Except Failure (List String) :=
  (Client.ofConfig { baseUrl := base }).map fun c => agents.map fun agent => (c.endpoint (readWallet agent).path).text

/-- Dots give the URL of all wallets, and a tab in a name gives that of another agent's wallet. -/
theorem dots_and_tabs_share_urls :
    (walletUrls "http://wallets.test/api/v1" ["agent\t1", "agent1", ".", ".."]).toOption =
      some ["http://wallets.test/api/v1/wallets/agent1", "http://wallets.test/api/v1/wallets/agent1",
        "http://wallets.test/api/v1/wallets", "http://wallets.test/api/v1/wallets"] := by
  decide +kernel

end Errand

end AgentLedger
