import DocLinks.Http.Client
import DocLinks.Proofs.WebLinks

namespace DocLinks

namespace UrlReader

variable {reader : UrlReader} {link : Text} {first u v : Url}

/-- The page that is asked for first, if the link is the address of one that can be asked for. -/
def first? (reader : UrlReader) (link : Text) : Option Url :=
  match reader.parse link with
  | .error _ => none
  | .ok whole =>
    if whole.hasHost && whole.withoutUser.isHttp && reader.isRequestable whole.withoutUser then
      some whole.withoutUser
    else none

theorem isHttp_of_first? (found : reader.first? link = some first) : first.isHttp = true := by
  unfold first? at found
  split at found
  · cases found
  · split at found
    · next usable =>
      cases found
      simp only [Bool.and_eq_true] at usable
      exact usable.1.2
    · cases found

/-- An address is left only for the one that the location means there. -/
theorem next?_eq_some_iff {code : Nat} {location : Option Text} :
    reader.next? u code location = some v ↔ code ∈ [301, 302, 303, 307, 308] ∧
      ∃ given, location = some given ∧ reader.join u given = .ok v ∧ reader.isRequestable v = true := by
  have redirects : isRedirect code = true ↔ code ∈ [301, 302, 303, 307, 308] := decide_eq_true_iff
  rw [← redirects, next?]
  by_cases asks : isRedirect code = true
  · rw [if_pos asks, and_iff_right asks]
    cases location with
    | none => simp
    | some given =>
      rw [Option.map_some]
      cases joined : reader.join u given with
      | error e => simp [joined]
      | ok w =>
        by_cases requestable : reader.isRequestable w = true
        · simp only [requestable, if_true, Option.some.injEq, exists_eq_left', joined, Except.ok.injEq]
          exact ⟨fun same => ⟨same, same ▸ requestable⟩, And.left⟩
        · simp only [requestable, Bool.false_eq_true, if_false, Option.some.injEq, exists_eq_left', joined,
            Except.ok.injEq]
          exact iff_of_false nofun fun ⟨same, usable⟩ => requestable (same ▸ usable)
  · simp [asks]

end UrlReader

theorem FetchError.message_eq_iff {e : FetchError} :
    e.message = "too many redirects".toList ↔ e = .tooManyRedirects := by
  refine ⟨fun same => ?_, fun same => same ▸ rfl⟩
  have letter := congrArg List.head? same
  cases e with
  | tooManyRedirects => rfl
  | _ => cases letter

namespace Fetch

variable {f : Fetch}

theorem outcome_eq_status_iff {n : Nat} : f.outcome = .status n ↔ f.result = .ok n := by
  rw [outcome]
  cases f.result <;> simp

theorem outcome_eq_failed_iff {detail : Text} :
    f.outcome = .failed detail ↔ ∃ e, f.result = .error e ∧ e.message = detail := by
  rw [outcome]
  cases f.result <;> simp

theorem outcome_eq_tooManyRedirects_iff :
    f.outcome = .failed "too many redirects".toList ↔ f.result = .error .tooManyRedirects := by
  simp only [outcome_eq_failed_iff, FetchError.message_eq_iff, exists_eq_right]

theorem outcome_eq_other_iff :
    (∃ detail, detail ≠ "too many redirects".toList ∧ f.outcome = .failed detail) ↔
      ∃ e, e ≠ .tooManyRedirects ∧ f.result = .error e := by
  simp only [outcome_eq_failed_iff]
  constructor
  · rintro ⟨_, other, e, failed, rfl⟩
    exact ⟨e, fun same => other (FetchError.message_eq_iff.2 same), failed⟩
  · rintro ⟨e, other, failed⟩
    exact ⟨e.message, fun same => other (FetchError.message_eq_iff.1 same), e, failed, rfl⟩

end Fetch

namespace Client

variable {c : Client} {link : Text} {u v last : Url} {n redirects : Nat}

/-- What comes back for an address, or why no server is reached. Nothing ever does where no time may pass. -/
def reply (c : Client) (u : Url) : Except Text Reply :=
  if c.timeout = some 0 then .ok .silence else c.web.ask u

/-- A server is reached at an address, but nothing comes back for as long as there is time. -/
def IsSilent (c : Client) (u : Url) : Prop := u.isHttp = true ∧ c.reply u = .ok .silence

/-- Whether a request for an address is made to a server. -/
def reaches (c : Client) (u : Url) : Bool := u.isHttp && c.timeout != some 0 && (c.web.ask u).isOk

/-- An address leads on to another: its answer asks to go on, and the location in it means the other there, for which a
request can be written. -/
def Leads (c : Client) (u v : Url) : Prop :=
  u.isHttp = true ∧ ∃ code location, c.reply u = .ok (.status code (some location)) ∧
    code ∈ [301, 302, 303, 307, 308] ∧ c.web.reader.join u location = .ok v ∧ c.web.reader.isRequestable v = true

/-- The address that the answer at an address leads on to. -/
def next? (c : Client) (u : Url) : Option Url :=
  if u.isHttp then
    match c.reply u with
    | .ok (.status code location) => c.web.reader.next? u code location
    | _ => none
  else none

/-- The first so many addresses of a chain of redirects. -/
def chain (c : Client) : Nat → Url → List Url
  | 0, _ => []
  | n + 1, u =>
    u :: match c.next? u with
      | some next => c.chain n next
      | none => []

/-- The addresses that a link leads through. The pages that are asked for are those of the web among them. -/
def pages (c : Client) (link : Text) : List Url :=
  match c.web.reader.first? link with
  | some first => c.chain (redirectLimit + 1) first
  | none => []

theorem pages_of_first?_eq_none (noPage : c.web.reader.first? link = none) : c.pages link = [] := by
  rw [pages, noPage]

theorem pages_of_first?_eq_some (found : c.web.reader.first? link = some u) :
    c.pages link = c.chain (redirectLimit + 1) u := by
  rw [pages, found]

/-- What a chain comes to that ends at an address. It comes to nothing where no answer ever comes and any time may
pass. -/
def ending (c : Client) (last : Url) : Option (Except FetchError Nat) :=
  if last.isHttp then
    match c.reply last with
    | .error cause => some (.error (.unreached last cause))
    | .ok .silence => if c.timeout = none then none else some (.error .timedOut)
    | .ok .closed => some (.error (.closed last))
    | .ok .garbage => some (.error (.garbage last))
    | .ok (.status code location) =>
      some (if (c.web.reader.next? last code location).isSome then .error .tooManyRedirects else .ok code)
  else some (.error (.schemeNotAllowed last))

theorem reply_eq_ask (time : c.timeout ≠ some 0) (u : Url) : c.reply u = c.web.ask u := if_neg time

/-- Only where some time may pass is there an answer. -/
theorem ask_of_answer {code : Nat} {location : Option Text} (replied : c.reply u = .ok (.status code location)) :
    c.timeout ≠ some 0 ∧ c.web.ask u = .ok (.status code location) := by
  rw [reply] at replied
  split at replied
  · cases replied
  · next time => exact ⟨time, replied⟩

theorem next?_of_answer {code : Nat} {location : Option Text} (http : u.isHttp = true)
    (replied : c.reply u = .ok (.status code location)) : c.next? u = c.web.reader.next? u code location := by
  rw [next?, if_pos http, replied]

theorem exists_answer_of_next? (leads : c.next? u = some v) : u.isHttp = true ∧
    ∃ code location, c.reply u = .ok (.status code location) ∧ c.web.reader.next? u code location = some v := by
  rw [next?] at leads
  split at leads
  · next http =>
    split at leads
    · next replied => exact ⟨http, _, _, replied, leads⟩
    · cases leads
  · cases leads

theorem leads_iff : c.Leads u v ↔ c.next? u = some v := by
  constructor
  · rintro ⟨http, code, location, replied, redirects, joined, requestable⟩
    rw [next?_of_answer http replied]
    exact UrlReader.next?_eq_some_iff.2 ⟨redirects, location, rfl, joined, requestable⟩
  · intro leads
    obtain ⟨http, code, _, replied, next⟩ := exists_answer_of_next? leads
    obtain ⟨redirects, location, rfl, joined, requestable⟩ := UrlReader.next?_eq_some_iff.1 next
    exact ⟨http, code, location, replied, redirects, joined, requestable⟩

theorem chain_of_next?_eq_none (ends : c.next? u = none) (n : Nat) : c.chain (n + 1) u = [u] := by
  rw [chain, ends]

theorem chain_of_next?_eq_some (leads : c.next? u = some v) (n : Nat) :
    c.chain (n + 1) u = u :: c.chain n v := by
  rw [chain, leads]

/-- The requests for addresses at which a server is reached. -/
def requestsFor (c : Client) (addresses : List Url) : List Request :=
  (addresses.filter c.reaches).map fun u => ⟨u.target⟩

/-- Asks for a page and for those it leads on to, so many redirects away. -/
def follow (c : Client) (redirects : Nat) (u : Url) : Option Fetch :=
  Fetch.follow c.web.reader c.await redirects u

theorem follow_zero (u : Url) : c.follow 0 u = (c.await u).bind (Fetch.ofReply c.web.reader none u) := rfl

theorem follow_succ (redirects : Nat) (u : Url) :
    c.follow (redirects + 1) u =
      (c.await u).bind (Fetch.ofReply c.web.reader (some (c.follow redirects)) u) := rfl

/-- Where an address leads no further, nothing depends on how many redirects are left. -/
theorem ofReply_of_next?_eq_none (time : c.timeout ≠ some 0) (http : u.isHttp = true) (ends : c.next? u = none)
    (more : Option (Url → Option Fetch)) :
    (c.await u).bind (Fetch.ofReply c.web.reader more u) =
      (c.ending u).map fun result => ⟨result, c.requestsFor [u]⟩ := by
  rw [next?, if_pos http, reply_eq_ask time] at ends
  have reached : c.reaches u = (c.web.ask u).isOk := by simp [reaches, http, time]
  rw [ending, if_pos http, reply_eq_ask time, await, requestsFor, List.filter_singleton, reached]
  cases replied : c.web.ask u with
  | error cause => rfl
  | ok reply =>
    cases reply with
    | status code location =>
      rw [replied] at ends
      simp [Fetch.ofReply, Fetch.after, Except.isOk, Except.toBool, ends]
    | silence => cases c.timeout <;> rfl
    | closed | garbage => rfl

theorem ofReply_of_next?_eq_some (leads : c.next? u = some v) (more : Option (Url → Option Fetch)) :
    (c.await u).bind (Fetch.ofReply c.web.reader more u) = Option.map (Fetch.after ⟨u.target⟩) (match more with
      | none => some (.failed .tooManyRedirects)
      | some more => if v.isHttp then more v else some (.failed (.schemeNotAllowed v))) := by
  obtain ⟨-, code, location, replied, next⟩ := exists_answer_of_next? leads
  rw [await, (ask_of_answer replied).2]
  cases more with
  | none => simp [Fetch.ofReply, next]
  | some more =>
    by_cases http : v.isHttp = true
    · cases later : more v <;> simp [Fetch.ofReply, next, http, later]
    · simp [Fetch.ofReply, next, http]

theorem ending_of_answer {code : Nat} {location : Option Text} (http : last.isHttp = true)
    (replied : c.reply last = .ok (.status code location)) :
    c.ending last = some (if (c.next? last).isSome then .error .tooManyRedirects else .ok code) := by
  rw [ending, if_pos http, replied, next?_of_answer http replied]

theorem ending_of_next?_eq_some (leads : c.next? u = some v) : c.ending u = some (.error .tooManyRedirects) := by
  obtain ⟨http, code, location, replied, -⟩ := exists_answer_of_next? leads
  rw [ending_of_answer http replied, leads]
  rfl

theorem reaches_of_next?_eq_some (leads : c.next? u = some v) : c.reaches u = true := by
  obtain ⟨http, code, location, replied, -⟩ := exists_answer_of_next? leads
  obtain ⟨time, asked⟩ := ask_of_answer replied
  simp [reaches, http, time, asked, Except.isOk, Except.toBool]

theorem requestsFor_cons (reached : c.reaches u = true) (later : List Url) :
    c.requestsFor (u :: later) = ⟨u.target⟩ :: c.requestsFor later := by
  rw [requestsFor, List.filter_cons_of_pos reached]
  rfl

/-- What comes of asking for a page is decided where the chain ends, and the requests are those for the addresses
on the way. -/
theorem follow_chain (time : c.timeout ≠ some 0) (http : u.isHttp = true) :
    ∃ last, (c.chain (redirects + 1) u).getLast? = some last ∧
      c.follow redirects u =
        (c.ending last).map fun result => ⟨result, c.requestsFor (c.chain (redirects + 1) u)⟩ := by
  induction redirects generalizing u with
  | zero =>
    rw [follow_zero]
    cases leads : c.next? u with
    | none =>
      rw [ofReply_of_next?_eq_none time http leads, chain_of_next?_eq_none leads]
      exact ⟨u, rfl, rfl⟩
    | some v =>
      refine ⟨u, by rw [chain_of_next?_eq_some leads]; rfl, ?_⟩
      rw [ofReply_of_next?_eq_some leads, chain_of_next?_eq_some leads, ending_of_next?_eq_some leads,
        requestsFor_cons (reaches_of_next?_eq_some leads)]
      rfl
  | succ redirects ih =>
    rw [follow_succ]
    cases leads : c.next? u with
    | none =>
      rw [ofReply_of_next?_eq_none time http leads, chain_of_next?_eq_none leads]
      exact ⟨u, rfl, rfl⟩
    | some v =>
      rw [ofReply_of_next?_eq_some leads, chain_of_next?_eq_some leads,
        requestsFor_cons (reaches_of_next?_eq_some leads)]
      by_cases httpV : v.isHttp = true
      · obtain ⟨last, ends, followed⟩ := ih httpV
        refine ⟨last, ?_, ?_⟩
        · rw [List.getLast?_cons, ends, Option.getD_some]
        · simp only [httpV, if_true, followed, Option.map_map]
          rfl
      · -- the address is the last of the chain, and no request is made for it
        have ends : c.next? v = none := by rw [next?, if_neg httpV]
        have unreached : c.requestsFor [v] = [] := by simp [requestsFor, reaches, httpV]
        rw [chain_of_next?_eq_none ends, unreached]
        refine ⟨v, rfl, ?_⟩
        simp [ending, httpV, Fetch.after, Fetch.failed]

theorem length_chain_le (c : Client) (n : Nat) (u : Url) : (c.chain n u).length ≤ n := by
  induction n generalizing u with
  | zero => exact Nat.le_refl _
  | succ n ih =>
    cases leads : c.next? u with
    | none =>
      rw [chain_of_next?_eq_none leads]
      exact Nat.succ_le_succ (Nat.zero_le n)
    | some v =>
      rw [chain_of_next?_eq_some leads]
      exact Nat.succ_le_succ (ih v)

theorem isChain_chain (c : Client) (n : Nat) (u : Url) :
    (c.chain n u).IsChain c.Leads := by
  induction n generalizing u with
  | zero => exact .nil
  | succ n ih =>
    cases leads : c.next? u with
    | none =>
      rw [chain_of_next?_eq_none leads]
      exact .singleton u
    | some v =>
      rw [chain_of_next?_eq_some leads]
      cases n with
      | zero => exact .singleton u
      | succ n => exact .cons_cons (leads_iff.2 leads) (ih v)

/-- All addresses of a chain but the last lead on, and the chain is only broken off where it has enough. -/
theorem chain_ends (ends : (c.chain n u).getLast? = some last) :
    (∀ v ∈ c.chain n u, v = last ∨ ∃ w, c.next? v = some w) ∧
      ∀ w, c.next? last = some w → (c.chain n u).length = n := by
  induction n generalizing u with
  | zero => cases ends
  | succ n ih =>
    cases leads : c.next? u with
    | none =>
      rw [chain_of_next?_eq_none leads] at ends ⊢
      cases ends
      exact ⟨fun v member => .inl (List.mem_singleton.1 member), fun w further => nomatch leads.symm.trans further⟩
    | some v =>
      rw [chain_of_next?_eq_some leads] at ends ⊢
      cases n with
      | zero =>
        cases ends
        exact ⟨fun v member => .inl (List.mem_singleton.1 member), fun _ _ => rfl⟩
      | succ n =>
        have later : (c.chain (n + 1) v).getLast? = some last := by
          rw [chain, List.getLast?_cons_cons] at ends
          exact ends
        obtain ⟨onward, full⟩ := ih later
        refine ⟨List.forall_mem_cons.2 ⟨.inr ⟨v, leads⟩, onward⟩, fun w further => ?_⟩
        rw [List.length_cons, full w further]

/-- Only at the end of a chain can there be an address that no server is reached for. -/
theorem filter_reaches_prefix (c : Client) (n : Nat) (u : Url) :
    (c.chain n u).filter c.reaches <+: c.chain n u := by
  induction n generalizing u with
  | zero => exact List.prefix_rfl
  | succ n ih =>
    cases leads : c.next? u with
    | none =>
      rw [chain_of_next?_eq_none leads, List.filter_singleton]
      cases c.reaches u with
      | false => exact List.nil_prefix
      | true => exact List.prefix_rfl
    | some v =>
      rw [chain_of_next?_eq_some leads, List.filter_cons_of_pos (reaches_of_next?_eq_some leads)]
      exact List.cons_prefix_cons.2 ⟨rfl, ih v⟩

theorem fetch_of_first?_eq_none (noPage : c.web.reader.first? link = none) :
    ∃ e, e ≠ .tooManyRedirects ∧ c.fetch link = some (.failed e) := by
  unfold UrlReader.first? at noPage
  unfold fetch Fetch.page
  cases parsed : c.web.reader.parse link with
  | error e => exact ⟨.noUrl e, nofun, rfl⟩
  | ok whole =>
    rw [parsed] at noPage
    dsimp only at noPage ⊢
    split
    · exact ⟨.schemeNotAllowed whole, nofun, rfl⟩
    next hasHost =>
    split
    · exact ⟨.schemeNotAllowed whole.withoutUser, nofun, rfl⟩
    next isHttp =>
    split
    · exact ⟨.unusableUrl whole.withoutUser, nofun, rfl⟩
    · next isRequestable =>
      simp only [Bool.not_eq_true', Bool.not_eq_false] at hasHost isHttp isRequestable
      simp [hasHost, isHttp, isRequestable] at noPage

theorem fetch_of_first?_eq_some (found : c.web.reader.first? link = some u) :
    c.fetch link = if c.timeout = some 0 then some (.failed .timedOut) else c.follow redirectLimit u := by
  unfold UrlReader.first? at found
  unfold fetch Fetch.page
  cases parsed : c.web.reader.parse link with
  | error e =>
    rw [parsed] at found
    cases found
  | ok whole =>
    rw [parsed] at found
    dsimp only at found ⊢
    split at found
    · next usable =>
      cases found
      simp only [Bool.and_eq_true] at usable
      obtain ⟨⟨hasHost, isHttp⟩, isRequestable⟩ := usable
      simp only [hasHost, isHttp, isRequestable, Bool.not_true, Bool.false_eq_true, if_false]
      rfl
    · cases found

/-- The chain of a link ends in an answer that leads no further. -/
def EndsIn (c : Client) (link : Text) (code : Nat) : Prop :=
  ∃ last ∈ (c.pages link).getLast?, last.isHttp = true ∧
    (∃ location, c.reply last = .ok (.status code location)) ∧ ∀ v, ¬c.Leads last v

/-- The first ten pages of the chain of a link all ask to go on. -/
def TooLong (c : Client) (link : Text) : Prop :=
  (c.pages link).length = 10 ∧ ∀ u ∈ c.pages link, ∃ v, c.Leads u v

/-- An address that cannot be asked for, or where nothing comes back that is an answer. -/
def NoAnswer (c : Client) (u : Url) : Prop :=
  u.isHttp = false ∨ ∀ code location, c.reply u ≠ .ok (.status code location)

/-- The link is no address that can be asked for, or its chain leads to one without an answer. -/
def Breaks (c : Client) (link : Text) : Prop :=
  c.web.reader.first? link = none ∨ ∃ u ∈ c.pages link, c.NoAnswer u

/-- What comes of asking for a link is decided where its chain ends. -/
theorem fetch_pages (found : c.web.reader.first? link = some u) :
    ∃ last, (c.pages link).getLast? = some last ∧
      c.fetch link = (c.ending last).map fun result => ⟨result, c.requestsFor (c.pages link)⟩ := by
  have http := UrlReader.isHttp_of_first? found
  rw [fetch_of_first?_eq_some found, pages_of_first?_eq_some found]
  split
  · next noTime =>
    have silent : c.reply u = .ok .silence := if_pos noTime
    have ends : c.next? u = none := by rw [next?, if_pos http, silent]
    rw [chain_of_next?_eq_none ends]
    refine ⟨u, rfl, ?_⟩
    simp [ending, http, silent, noTime, requestsFor, reaches, Fetch.failed]
  · next time => exact follow_chain time http

theorem answers_or_not (c : Client) (u : Url) :
    (u.isHttp = true ∧ ∃ code location, c.reply u = .ok (.status code location)) ∨ c.NoAnswer u := by
  by_cases http : u.isHttp = true
  · by_cases answers : ∃ code location, c.reply u = .ok (.status code location)
    · exact .inl ⟨http, answers⟩
    · exact .inr (.inr fun code location replied => answers ⟨code, location, replied⟩)
  · exact .inr (.inl (by simpa using http))

/-- Where there is no answer, there is some failure, or nothing at all where a client waits for ever. -/
theorem NoAnswer.ending (unanswered : c.NoAnswer last) :
    (c.timeout = none ∧ c.IsSilent last ∧ c.ending last = none) ∨
      ∃ e, e ≠ .tooManyRedirects ∧ c.ending last = some (.error e) := by
  rw [Client.ending]
  split
  · next http =>
    have noStatus := unanswered.resolve_left (by simp [http])
    cases replied : c.reply last with
    | error cause => exact .inr ⟨.unreached last cause, nofun, rfl⟩
    | ok reply =>
      cases reply with
      | silence =>
        by_cases patient : c.timeout = none
        · exact .inl ⟨patient, ⟨http, replied⟩, if_pos patient⟩
        · exact .inr ⟨.timedOut, nofun, if_neg patient⟩
      | closed => exact .inr ⟨.closed last, nofun, rfl⟩
      | garbage => exact .inr ⟨.garbage last, nofun, rfl⟩
      | status code location => exact absurd replied (noStatus code location)
  · exact .inr ⟨.schemeNotAllowed last, nofun, rfl⟩

theorem NoAnswer.not_leads (unanswered : c.NoAnswer u) : ¬c.Leads u v := by
  rintro ⟨http, code, location, replied, -⟩
  rcases unanswered with other | noStatus
  · simp [http] at other
  · exact noStatus code _ replied

theorem ending_eq_none_iff : c.ending last = none ↔ c.timeout = none ∧ c.IsSilent last := by
  constructor
  · intro endless
    rcases c.answers_or_not last with ⟨http, code, location, replied⟩ | unanswered
    · cases (ending_of_answer http replied).symm.trans endless
    · rcases unanswered.ending with ⟨patient, silent, -⟩ | ⟨e, -, failed⟩
      · exact ⟨patient, silent⟩
      · cases failed.symm.trans endless
  · rintro ⟨patient, http, replied⟩
    rw [ending, if_pos http, replied]
    exact if_pos patient

theorem ending_eq_ok_iff : c.ending last = some (.ok n) ↔
    last.isHttp = true ∧ (∃ location, c.reply last = .ok (.status n location)) ∧ ∀ v, ¬c.Leads last v := by
  simp only [leads_iff, ← ne_eq, ← Option.eq_none_iff_forall_ne_some]
  constructor
  · intro ended
    rcases c.answers_or_not last with ⟨http, code, location, replied⟩ | unanswered
    · rw [ending_of_answer http replied, Option.some.injEq] at ended
      split at ended
      · cases ended
      · next stays =>
        cases ended
        exact ⟨http, ⟨location, replied⟩, by simpa using stays⟩
    · rcases unanswered.ending with ⟨-, -, endless⟩ | ⟨e, -, failed⟩
      · cases endless.symm.trans ended
      · cases failed.symm.trans ended
  · rintro ⟨http, ⟨location, replied⟩, stays⟩
    rw [ending_of_answer http replied, stays]
    rfl

theorem ending_eq_tooManyRedirects_iff :
    c.ending last = some (.error .tooManyRedirects) ↔ ∃ v, c.Leads last v := by
  simp only [leads_iff]
  constructor
  · intro ended
    rcases c.answers_or_not last with ⟨http, code, location, replied⟩ | unanswered
    · rw [ending_of_answer http replied, Option.some.injEq] at ended
      split at ended
      · next leads => exact Option.isSome_iff_exists.1 leads
      · cases ended
    · rcases unanswered.ending with ⟨-, -, endless⟩ | ⟨e, other, failed⟩
      · cases endless.symm.trans ended
      · cases failed.symm.trans ended
        exact absurd rfl other
  · rintro ⟨v, leads⟩
    exact ending_of_next?_eq_some leads

theorem ending_eq_other_iff {result : Except FetchError Nat} (ended : c.ending last = some result) :
    (∃ e, e ≠ .tooManyRedirects ∧ result = .error e) ↔ c.NoAnswer last := by
  constructor
  · rintro ⟨e, other, rfl⟩
    refine (c.answers_or_not last).resolve_left ?_
    rintro ⟨http, code, location, replied⟩
    rw [ending_of_answer http replied, Option.some.injEq] at ended
    split at ended
    · cases ended
      exact other rfl
    · cases ended
  · intro unanswered
    rcases unanswered.ending with ⟨-, -, endless⟩ | ⟨e, other, failed⟩
    · cases endless.symm.trans ended
    · exact ⟨e, other, Option.some.inj (ended.symm.trans failed)⟩

/-- A client waits for ever just where nothing comes back from the end of the chain and any time may pass. -/
theorem fetch_eq_none_iff :
    c.fetch link = none ↔ c.timeout = none ∧ ∃ last ∈ (c.pages link).getLast?, c.IsSilent last := by
  cases found : c.web.reader.first? link with
  | none =>
    obtain ⟨e, -, failed⟩ := c.fetch_of_first?_eq_none found
    rw [failed, pages_of_first?_eq_none found]
    exact iff_of_false nofun fun ⟨_, _, member, _⟩ => nomatch member
  | some first =>
    obtain ⟨last, ends, fetched⟩ := c.fetch_pages found
    rw [fetched, Option.map_eq_none_iff, ending_eq_none_iff, ends]
    simp

section

variable {f : Fetch} (fetched : c.fetch link = some f)
include fetched

/-- A fetch that comes to an end fails at once, since nothing can be asked for, or is told from the last address of the
chain. -/
theorem fetch_cases :
    (c.web.reader.first? link = none ∧ c.pages link = [] ∧ ∃ e, e ≠ .tooManyRedirects ∧ f = .failed e) ∨
      ∃ last, c.web.reader.first? link ≠ none ∧ (c.pages link).getLast? = some last ∧
        c.ending last = some f.result ∧ f.requests = c.requestsFor (c.pages link) ∧
        (∀ v ∈ c.pages link, v = last ∨ ∃ w, c.Leads v w) ∧ ∀ w, c.Leads last w → (c.pages link).length = 10 := by
  cases found : c.web.reader.first? link with
  | none =>
    obtain ⟨e, other, failed⟩ := c.fetch_of_first?_eq_none found
    cases failed.symm.trans fetched
    exact .inl ⟨rfl, pages_of_first?_eq_none found, e, other, rfl⟩
  | some first =>
    obtain ⟨last, ends, eq⟩ := fetch_pages (c := c) found
    obtain ⟨result, ended, rfl⟩ := Option.map_eq_some_iff.1 (eq.symm.trans fetched)
    refine .inr ⟨last, nofun, ends, ended, rfl, ?_⟩
    simp only [leads_iff]
    rw [pages_of_first?_eq_some found] at ends ⊢
    exact chain_ends ends

theorem requests_eq : f.requests = c.requestsFor (c.pages link) := by
  rcases fetch_cases fetched with ⟨-, none, e, -, rfl⟩ | ⟨last, -, -, -, requests, -⟩
  · rw [none]
    rfl
  · exact requests

theorem result_eq_ok_iff : f.result = .ok n ↔ c.EndsIn link n := by
  rcases fetch_cases fetched with ⟨-, none, e, -, rfl⟩ | ⟨last, -, ends, ended, -⟩
  · rw [EndsIn, none]
    exact ⟨nofun, fun ⟨_, member, _⟩ => nomatch member⟩
  · rw [← Option.some_inj, ← ended, ending_eq_ok_iff, EndsIn, ends]
    simp

theorem result_eq_tooManyRedirects_iff : f.result = .error .tooManyRedirects ↔ c.TooLong link := by
  rcases fetch_cases fetched with ⟨-, none, e, other, rfl⟩ | ⟨last, -, ends, ended, -, onward, full⟩
  · rw [TooLong, none]
    exact ⟨fun same => absurd (Except.error.inj same) other, fun ⟨ten, _⟩ => nomatch ten⟩
  · rw [← Option.some_inj, ← ended, ending_eq_tooManyRedirects_iff]
    constructor
    · rintro ⟨w, leads⟩
      exact ⟨full w leads, fun v member => (onward v member).elim (fun same => same ▸ ⟨w, leads⟩) id⟩
    · rintro ⟨-, all⟩
      exact all last (List.mem_of_getLast? ends)

theorem result_eq_other_iff : (∃ e, e ≠ .tooManyRedirects ∧ f.result = .error e) ↔ c.Breaks link := by
  rw [Breaks]
  rcases fetch_cases fetched with ⟨noPage, -, e, other, rfl⟩ | ⟨last, found, ends, ended, -, onward, -⟩
  · exact ⟨fun _ => .inl noPage, fun _ => ⟨e, other, rfl⟩⟩
  · rw [ending_eq_other_iff ended, or_iff_right found]
    constructor
    · exact fun unanswered => ⟨last, List.mem_of_getLast? ends, unanswered⟩
    · rintro ⟨v, member, unanswered⟩
      rcases onward v member with rfl | ⟨w, leads⟩
      · exact unanswered
      · exact absurd leads unanswered.not_leads

/-- A link to the web is reported just by where its chain ends. -/
theorem reported_iff {probe : Probe} (answers : probe link = f.outcome) {ctx : Context} {o : Occurrence}
    (same : o.link = link) (web : IsWebLink link) (asked : ctx.skipExternal = false) (t : Tree) :
    (ctx.check t probe o).failure? ≠ none ↔
      (∃ n, 400 ≤ n ∧ n < 500 ∧ c.EndsIn link n) ∨ c.Breaks link ∨ c.TooLong link := by
  have page : ctx.aim o = .page link := by
    rw [ctx.aim_of_web (same ▸ web), asked, same]
    rfl
  have verdict : (ctx.check t probe o).failure? ≠ none ↔ f.outcome.finding.reason? ≠ none := by
    simp [Context.check, Occurrence.verdict, page, Aim.finding, answers]
  simp only [verdict, ← result_eq_ok_iff fetched, ← result_eq_other_iff fetched,
    ← result_eq_tooManyRedirects_iff fetched]
  rw [Fetch.outcome]
  cases f.result with
  | ok code =>
    simp only [ProbeOutcome.finding]
    split
    · next refused => simp [Finding.bad, refused]
    · next accepted =>
      simp only [Finding.good]
      grind
  | error e =>
    simp only [ProbeOutcome.finding, Finding.bad]
    grind

end

/-- A link to the web is judged by the end of its chain of redirects. However addresses are read and whatever the
servers do, no more than ten pages are asked for, each one after the first at the location that the answer before it
gives, and that comes to an end unless the last page stays silent and there is no limit to the time. The status of the
last page is what comes of it if that leads no further; there are too many redirects just if ten pages all ask to go
on; and there is another failure just if one of the first ten addresses cannot be asked for or gives no answer. -/
theorem redirect_chain_decides (c : Client) (link : Text) :
    let pages := c.pages link
    pages.length ≤ 10 ∧ pages.head? = c.web.reader.first? link ∧
    pages.IsChain c.Leads ∧ (∀ last ∈ pages.getLast?, ∀ next, c.Leads last next → pages.length = 10) ∧
    pages.filter c.reaches <+: pages ∧
    ((∃ f, c.fetch link = some f) ↔ ¬(c.timeout = none ∧ ∃ last ∈ pages.getLast?, c.IsSilent last)) ∧
    ∀ f, c.fetch link = some f →
      f.requests = (pages.filter c.reaches).map (fun u => ⟨u.target⟩) ∧ f.requests.length ≤ 10 ∧
      (∀ n, f.outcome = .status n ↔ c.EndsIn link n) ∧
      (f.outcome = .failed "too many redirects".toList ↔ c.TooLong link) ∧
      ((∃ detail, detail ≠ "too many redirects".toList ∧ f.outcome = .failed detail) ↔ c.Breaks link) ∧
      ∀ (probe : Probe) (ctx : Context) (t : Tree) (o : Occurrence), probe link = f.outcome → o.link = link →
        IsWebLink link → ctx.skipExternal = false →
        ((ctx.check t probe o).failure? ≠ none ↔
          (∃ n, 400 ≤ n ∧ n < 500 ∧ c.EndsIn link n) ∨ c.Breaks link ∨ c.TooLong link) := by
  intro pages
  have facts : pages.length ≤ 10 ∧ pages.head? = c.web.reader.first? link ∧ pages.IsChain c.Leads ∧
      (∀ last ∈ pages.getLast?, ∀ next, c.Leads last next → pages.length = 10) ∧
      pages.filter c.reaches <+: pages := by
    cases found : c.web.reader.first? link with
    | none =>
      have none : pages = [] := pages_of_first?_eq_none found
      rw [none]
      exact ⟨Nat.zero_le 10, rfl, .nil, nofun, List.prefix_rfl⟩
    | some first =>
      have chain : pages = c.chain 10 first := pages_of_first?_eq_some found
      rw [chain]
      refine ⟨c.length_chain_le 10 first, rfl, c.isChain_chain 10 first, ?_, c.filter_reaches_prefix 10 first⟩
      exact fun last ends next leads => (chain_ends ends).2 next (leads_iff.1 leads)
  obtain ⟨short, begins, follows, full, reached⟩ := facts
  refine ⟨short, begins, follows, full, reached, ?_, fun f fetched => ?_⟩
  · rw [← fetch_eq_none_iff, ← ne_eq, Option.ne_none_iff_exists']
  · have requests : f.requests = (pages.filter c.reaches).map fun u => ⟨u.target⟩ := requests_eq fetched
    refine ⟨requests, ?_, fun n => Fetch.outcome_eq_status_iff.trans (result_eq_ok_iff fetched),
      Fetch.outcome_eq_tooManyRedirects_iff.trans (result_eq_tooManyRedirects_iff fetched),
      Fetch.outcome_eq_other_iff.trans (result_eq_other_iff fetched), ?_⟩
    · rw [requests, List.length_map]
      exact Nat.le_trans reached.length_le short
    · exact fun probe ctx t o answers same web asked => reported_iff fetched answers same web asked t

/-- Two pages that lead to each other, an old address of a page that is gone, a page that never answers, and a server
that is not there. -/
theorem redirect_chain_decides_loop :
    let server (target : Text) : Reply :=
      if target = "/a".toList then .status 302 (some "/b".toList)
      else if target = "/b".toList then .status 307 (some "a".toList)
      else if target = "/old".toList then .status 301 (some "gone#x".toList)
      else if target = "/still".toList then .silence
      else .status 404 none
    let ask (u : Url) : Except Text Reply :=
      if u.authority.map (·.host) = some (.name "h".toList) then .ok (server u.target) else .error "dns error".toList
    let c : Client := ⟨⟨.standard, ask⟩, none⟩
    let ctx : Context := ⟨"docs".toList, "static".toList, "docs".toList, "static".toList, ".".toList, false⟩
    let reported (link : Text) := ∃ f, c.fetch link = some f ∧
      (ctx.check ⟨[], []⟩ (fun _ => f.outcome) ⟨link, "a.md".toList, false⟩).failure? ≠ none
    (c.TooLong "http://h/a".toList ∧ reported "http://h/a".toList) ∧
    (c.EndsIn "http://h/old".toList 404 ∧ reported "http://h/old".toList) ∧
    (c.Breaks "http://i/".toList ∧ reported "http://i/".toList) ∧
    c.fetch "http://h/still".toList = none := by
  intro server ask c ctx reported
  have loops : (c.fetch "http://h/a".toList).map Fetch.outcome = some (.failed "too many redirects".toList) := by
    decide +kernel
  have gone : (c.fetch "http://h/old".toList).map Fetch.outcome = some (.status 404) := by decide +kernel
  have refused : (c.fetch "http://i/".toList).map Fetch.outcome = some (.failed (FetchError.unreached
      ⟨"http".toList, some ⟨[], none, .name "i".toList, none⟩, .hierarchical [[]], none, none⟩
      "dns error".toList).message) := by decide +kernel
  have silent : (c.fetch "http://h/still".toList).map Fetch.outcome = none := by decide +kernel
  obtain ⟨f, fetchedLoop, loops⟩ := Option.map_eq_some_iff.1 loops
  obtain ⟨g, fetchedGone, gone⟩ := Option.map_eq_some_iff.1 gone
  obtain ⟨k, fetchedRefused, refused⟩ := Option.map_eq_some_iff.1 refused
  obtain ⟨-, -, -, -, -, -, loop⟩ := redirect_chain_decides c "http://h/a".toList
  obtain ⟨-, -, -, tooLong, -, reportsLoop⟩ := loop f fetchedLoop
  obtain ⟨-, -, -, -, -, -, old⟩ := redirect_chain_decides c "http://h/old".toList
  obtain ⟨-, -, endsIn, -, -, reportsGone⟩ := old g fetchedGone
  obtain ⟨-, -, -, -, -, -, absent⟩ := redirect_chain_decides c "http://i/".toList
  obtain ⟨-, -, -, -, breaks, reportsRefused⟩ := absent k fetchedRefused
  have tooLong := tooLong.1 loops
  have endsIn := (endsIn 404).1 gone
  have breaks := breaks.1 ⟨_, by decide +kernel, refused⟩
  refine ⟨⟨tooLong, f, fetchedLoop, ?_⟩, ⟨endsIn, g, fetchedGone, ?_⟩, ⟨breaks, k, fetchedRefused, ?_⟩,
    Option.map_eq_none_iff.1 silent⟩
  · exact (reportsLoop _ ctx _ _ rfl rfl (by decide) rfl).2 (.inr (.inr tooLong))
  · exact (reportsGone _ ctx _ _ rfl rfl (by decide) rfl).2 (.inl ⟨404, by decide, by decide, endsIn⟩)
  · exact (reportsRefused _ ctx _ _ rfl rfl (by decide) rfl).2 (.inr (.inl breaks))

end Client

end DocLinks
