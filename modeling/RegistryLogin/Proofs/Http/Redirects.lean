import RegistryLogin.Http.Network
import Mathlib.Data.List.Chain
import Mathlib.Tactic.SplitIfs

/-! Redirected requests: each is one that an answer to the request before has led to. -/

namespace RegistryLogin

def Redirects.most : Redirects → Nat
  | .refused => 0
  | .followed most => most

namespace Network

variable {network further : Network} {request next : Request} {response : Response} {sent : List Request}

/-- One of the answers to come would send a client on from this request to the next. -/
def Leads (network : Network) (request next : Request) : Prop :=
  ∃ answer ∈ network.answers, answer.response?.bind request.next? = some next

structure Trail (network : Network) (request : Request) (most : Nat) (sent : List Request) : Prop where
  length : sent.length ≤ most + 1
  first : ∀ r ∈ sent.head?, r = request
  chain : sent.IsChain network.Leads

lemma Leads.mono (h : further.answers ⊆ network.answers) (leads : further.Leads request next) :
    network.Leads request next := by
  obtain ⟨answer, hm, led⟩ := leads
  exact ⟨answer, h hm, led⟩

lemma Trail.nil {most : Nat} : network.Trail request most [] :=
  ⟨Nat.zero_le _, by rintro _ ⟨⟩, .nil⟩

lemma Trail.single {most : Nat} : network.Trail request most [request] where
  length := Nat.le_add_left 1 most
  first := by
    rintro _ ⟨⟩
    rfl
  chain := .singleton request

lemma Trail.cons {most : Nat} (leads : network.Leads request next) (h : further.answers ⊆ network.answers)
    (trail : further.Trail next most sent) : network.Trail request (most + 1) (request :: sent) where
  length := Nat.succ_le_succ trail.length
  first := by
    rintro _ ⟨⟩
    rfl
  chain := by
    have chain : sent.IsChain network.Leads := trail.chain.imp fun _ _ => Leads.mono h
    cases sent with
    | nil => exact .singleton request
    | cons r sent =>
      obtain rfl := trail.first r rfl
      exact .cons_cons leads chain

lemma ask_answer {answer : Answer} {rest : List Answer} (reachable : network.reachable = true)
    (web : Url.isWeb request.url.scheme = true) (answers : network.answers = answer :: rest) :
    network.ask request =
      (answer.response?, { network with answers := rest, seen := network.seen ++ [request] }) := by
  rw [ask, if_pos ⟨reachable, web⟩]
  simp only [answers]

lemma ask_cases (request : Request) (network : Network) :
    network.ask request = (none, network) ∨
      ∃ response rest, network.ask request = (response, ⟨network.reachable, rest, network.seen ++ [request]⟩) ∧
        rest ⊆ network.answers ∧
        ∀ r, response = some r → ∃ answer ∈ network.answers, answer.response? = some r := by
  unfold ask
  split_ifs
  · right
    cases hn : network.answers with
    | nil => exact ⟨none, [], rfl, List.Subset.refl _, nofun⟩
    | cons answer rest =>
      refine ⟨_, rest, rfl, List.subset_cons_self answer rest, fun r answered => ?_⟩
      exact ⟨answer, List.mem_cons_self, answered⟩
  · exact .inl rfl

lemma ask_trail (request : Request) (network : Network) (most : Nat) :
    ∃ sent, (network.ask request).2.seen = network.seen ++ sent ∧ network.Trail request most sent := by
  rcases ask_cases request network with same | ⟨response, rest, asked, -⟩
  · exact ⟨[], by rw [same, List.append_nil], .nil⟩
  · exact ⟨[request], by rw [asked], .single⟩

lemma ask_leads (led : (network.ask request).1.bind request.next? = some next) :
    network.Leads request next ∧ (network.ask request).2.answers ⊆ network.answers ∧
      (network.ask request).2.seen = network.seen ++ [request] := by
  rcases ask_cases request network with same | ⟨response, rest, asked, fewer, given⟩
  · rw [same] at led
    cases led
  · rw [asked] at led ⊢
    obtain ⟨r, answered, onward⟩ := Option.bind_eq_some_iff.mp led
    obtain ⟨answer, hm, told⟩ := given r answered
    exact ⟨⟨answer, hm, by rw [told]; exact onward⟩, fewer, rfl⟩

lemma follow_kept (most : Nat) (still : (network.ask request).1.bind request.next? = none) :
    network.follow most request = network.ask request := by
  rw [follow.eq_def]
  simp only [still]

lemma follow_spent (led : (network.ask request).1.bind request.next? = some next) :
    network.follow 0 request = (none, (network.ask request).2) := by
  rw [follow.eq_def]
  simp only [led]

lemma follow_led (most : Nat) (led : (network.ask request).1.bind request.next? = some next) :
    network.follow (most + 1) request = (network.ask request).2.follow most next := by
  rw [follow.eq_def]
  simp only [led]

theorem follow_trail (most : Nat) (request : Request) (network : Network) :
    ∃ sent, (network.follow most request).2.seen = network.seen ++ sent ∧
      network.Trail request most sent := by
  induction most generalizing request network with
  | zero =>
    have asked : (network.follow 0 request).2 = (network.ask request).2 := by
      cases led : (network.ask request).1.bind request.next? with
      | none => rw [follow_kept 0 led]
      | some next => rw [follow_spent led]
    rw [asked]
    exact ask_trail request network 0
  | succ most ih =>
    cases led : (network.ask request).1.bind request.next? with
    | none =>
      rw [follow_kept _ led]
      exact ask_trail request network (most + 1)
    | some next =>
      obtain ⟨leads, fewer, seen⟩ := ask_leads led
      obtain ⟨sent, later, trail⟩ := ih next (network.ask request).2
      refine ⟨request :: sent, ?_, trail.cons leads fewer⟩
      rw [follow_led most led, later, seen, List.append_assoc, List.singleton_append]

theorem send_trail (client : HttpClient) (request : Request) (network : Network) :
    ∃ sent, (network.send client request).2.seen = network.seen ++ sent ∧
      network.Trail request client.redirects.most sent := by
  rw [send]
  cases client.redirects with
  | refused => exact ask_trail request network 0
  | followed most => exact follow_trail most request network

end Network

def Request.Repeats (first request : Request) : Prop :=
  request.method = first.method ∧ request.body = first.body ∨ request.method = .get ∧ request.body = []

lemma Request.Repeats.next {first request next : Request} {response : Response}
    (repeats : first.Repeats request) (onward : request.next? response = some next) :
    first.Repeats next := by
  unfold next? at onward
  split at onward
  · obtain ⟨url, -, rfl⟩ := Option.map_eq_some_iff.mp onward
    cases again : isRepeated response.status with
    | true => simpa [Repeats] using repeats
    | false => exact .inr ⟨by simp, by simp⟩
  · cases onward

theorem Network.send_repeats (client : HttpClient) (request : Request) (network : Network) :
    ∀ r ∈ (network.send client request).2.seen, r ∈ network.seen ∨ request.Repeats r := by
  intro r hr
  obtain ⟨sent, seen, trail⟩ := network.send_trail client request
  rw [seen] at hr
  rcases List.mem_append.mp hr with old | fresh
  · exact .inl old
  · refine .inr (trail.chain.induction request.Repeats sent ?_ ?_ r fresh)
    · rintro earlier later ⟨answer, -, led⟩ repeats
      obtain ⟨response, -, onward⟩ := Option.bind_eq_some_iff.mp led
      exact repeats.next onward
    · intro some
      rw [trail.first _ (List.head?_eq_some_head some)]
      exact .inl ⟨rfl, rfl⟩

/-- The client goes nowhere from this answer. -/
def HttpClient.Keeps (client : HttpClient) (request : Request) (response : Response) : Prop :=
  client.redirects = .refused ∨ request.next? response = none

namespace Network

variable {network : Network} {client : HttpClient} {request : Request} {response : Response}

lemma send_of_keeps (answered : (network.ask request).1 = some response)
    (keeps : client.Keeps request response) : network.send client request = network.ask request := by
  rw [send]
  cases hr : client.redirects with
  | refused => rfl
  | followed most =>
    rcases keeps with refused | nowhere
    · cases hr.symm.trans refused
    · have still : (network.ask request).1.bind request.next? = none := by rw [answered]; exact nowhere
      exact follow_kept most still

lemma send_answer {answer : Answer} {rest : List Answer} (reachable : network.reachable = true)
    (web : Url.isWeb request.url.scheme = true) (answers : network.answers = answer :: rest)
    (told : answer.response? = some response) (keeps : client.Keeps request response) :
    network.send client request =
      (some response, { network with answers := rest, seen := network.seen ++ [request] }) := by
  have asked := ask_answer reachable web answers
  rw [told] at asked
  rw [send_of_keeps (congrArg Prod.fst asked) keeps, asked]

lemma Trail.mem {most : Nat} {sent : List Request} (trail : network.Trail request most sent) {r : Request}
    (hr : r ∈ sent) : r = request ∨ 0 < most ∧ ∃ earlier ∈ sent, network.Leads earlier r := by
  obtain ⟨length, first, chain⟩ := trail
  obtain ⟨front, back, rfl⟩ := List.append_of_mem hr
  rcases List.eq_nil_or_concat front with rfl | ⟨front, earlier, rfl⟩
  · exact .inl (first r rfl)
  · rw [List.concat_eq_append, List.append_assoc] at chain length ⊢
    have led : network.Leads earlier r := (List.isChain_cons_cons.mp chain.right_of_append).1
    refine .inr ⟨?_, earlier, by simp, led⟩
    simp only [List.length_append, List.length_cons, List.length_nil] at length
    omega

end Network

end RegistryLogin
