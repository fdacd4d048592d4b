import Minghe.Sip.Registered
import Minghe.Sip.Sender
import Minghe.Sip.Traced

/-!
# Senders of instant messages

What reaches a callee as the sender of a message, over any run of the message service whose registrar
is one that REGISTERs led to.

Results:
* `sender_authentic_iff`: **every text on the wire was submitted by a call, and names the extension of
  that call iff `NamesSender` holds of its request**.
* `sender_forged`: a request with four parts in its start line is sent on as it is, forged `From`
  included.
-/

namespace Minghe.Sip

open Minghe.Lib

/-- A line end in the domain is one in the URI. -/
theorem lf_not_mem_domain {extension domain : Str} {transport : Transport}
    (h : '\n' ∉ serverContactUri extension domain transport) : '\n' ∉ domain := fun hd =>
  h (List.mem_append_left _ (List.mem_append_left _ (List.mem_append_right _ hd)))

theorem semicolon_mem_serverContactUri (extension domain : Str) (transport : Transport) :
    ';' ∈ serverContactUri extension domain transport := by
  have hparam : ';' ∈ ";transport=".toList := by decide
  exact List.mem_append_left _ (List.mem_append_right _ hparam)

theorem lf_not_mem_serverContactUri {extension domain : Str} {transport : Transport}
    (he : '\n' ∉ extension) (hd : '\n' ∉ domain) : '\n' ∉ serverContactUri extension domain transport := by
  have hparam : '\n' ∉ transport.uriParam := by cases transport <;> decide
  have hscheme : '\n' ∉ "sip:".toList := by decide
  have hname : '\n' ∉ ";transport=".toList := by decide
  change '\n' ∉ "sip:".toList ++ extension ++ ['@'] ++ domain ++ ";transport=".toList ++ _
  rw [List.mem_append, List.mem_append, List.mem_append, List.mem_append, List.mem_append]
  rintro (((((h | h) | h) | h) | h) | h)
  · exact hscheme h
  · exact he h
  · exact absurd h (by decide)
  · exact hd h
  · exact hname h
  · exact hparam h

/-- A target is on one line. -/
theorem lf_not_mem_registeredContactUri {rcfg : RegistrarConfig} {md5 : List UInt8 → Vector UInt8 16}
    {extension domain : Str} (now : Nat) (ops : List RegistrarOp) (he : '\n' ∉ extension)
    (hd : '\n' ∉ domain) :
    '\n' ∉ registeredContactUri extension domain now (RegistrarService.run rcfg md5 ops) := by
  unfold registeredContactUri
  split
  · rename_i reg hl
    exact RegistrarService.lf_not_mem_contact (Option.filter_eq_some_iff.mp hl).1
  · exact lf_not_mem_serverContactUri he hd

namespace MessageService

/-- An extension that is a number is on one line. -/
theorem lf_not_mem_valid {cfg : MessageConfig} {extension : Str}
    (h : cfg.isValidExtension extension = true) : '\n' ∉ extension := by
  unfold MessageConfig.isValidExtension at h
  split at h
  · rename_i n hparse
    exact fun hn => absurd (isWhitespace_of_parseUnsigned hparse _ hn) (by decide)
  · cases h

/-- **The sender that a callee sees.** In every run, whatever was put on the wire, at once or from the
queue, is the request of a call that was submitted for the extension it is sent for; and its `From` is the
URI of that extension exactly if the request meets `NamesSender`. -/
theorem sender_authentic_iff (cfg : MessageConfig) (rcfg : RegistrarConfig)
    (md5 : List UInt8 → Vector UInt8 16) (events : List MessageEvent)
    (hreg : ∀ env, Seen events env → ∃ ops, env.registrar = RegistrarService.run rcfg md5 ops) :
    ∀ t ∈ (run cfg events).sends, Submitted events t.origin t.request t.fromExt ∧
      (extractUriFromHeader t.text "From".toList =
          .ok (some (serverContactUri t.fromExt cfg.domain t.sink.transport)) ↔
        NamesSender t.request t.targetUri (serverContactUri t.fromExt cfg.domain t.sink.transport)) := by
  intro t ht
  obtain ⟨hsubmitted, hvalid, -, ⟨env, hseen, htarget⟩, branch, htext⟩ :=
    (run_traced cfg events fun _ he => he).sent t ht
  refine ⟨hsubmitted, namesSender_iff (semicolon_mem_serverContactUri _ _ _) (fun hlf => ?_)
    lf_not_mem_domain htext⟩
  obtain ⟨ops, hops⟩ := hreg env hseen
  rw [htarget, hops]
  exact lf_not_mem_registeredContactUri env.now ops (lf_not_mem_valid hvalid) (lf_not_mem_domain hlf)

/-- Extension 1001 sends a request to 1002, who has a TLS connection. -/
def sendOnline (text : Str) : List MessageEvent :=
  .submit 0 text "1001".toList (Vector.replicate 8 1) :: List.replicate 3
    (.call 0 { writers := AList.singleton "1002".toList (.stream 7) } (Vector.replicate 8 2) true)

theorem registrar_sendOnline {text : Str} {env : Env} (h : Seen (sendOnline text) env) :
    env.registrar = {} := by
  obtain ⟨event, hmem, hseen⟩ := h
  rw [sendOnline, List.mem_cons, List.mem_replicate] at hmem
  rcases hmem with rfl | ⟨-, rfl⟩
  · cases hseen
  · cases hseen
    rfl

/-- A forged `From` is replaced by the extension of the connection. -/
theorem sender_authentic_concrete :
    let cfg : MessageConfig := ⟨"example.com".toList, 1000, 2000, false⟩
    let events := sendOnline
      "MESSAGE sip:1002@example.com SIP/2.0\r\nFrom: <sip:1999@example.com>\r\nl: 2\r\n\r\nhi".toList
    (run cfg events).sends.length = 1 ∧ ∀ t ∈ (run cfg events).sends,
      Submitted events t.origin t.request t.fromExt ∧
      (extractUriFromHeader t.text "From".toList =
          .ok (some (serverContactUri t.fromExt cfg.domain t.sink.transport)) ↔
        NamesSender t.request t.targetUri (serverContactUri t.fromExt cfg.domain t.sink.transport)) ∧
      extractUriFromHeader t.text "From".toList = .ok (some "sip:1001@example.com;transport=tls".toList) := by
  intro cfg events
  have hread : ∀ t ∈ (run cfg events).sends, extractUriFromHeader t.text "From".toList =
      .ok (some "sip:1001@example.com;transport=tls".toList) := by decide +kernel
  have hiff := sender_authentic_iff cfg ⟨[], [], ∅, 0, 0, {}, []⟩ (fun _ => Vector.replicate 16 0) events
    fun env hseen => ⟨[], registrar_sendOnline hseen⟩
  exact ⟨by decide +kernel, fun t ht => ⟨(hiff t ht).1, (hiff t ht).2, hread t ht⟩⟩

/-- With a fourth word in the start line the forged `From` reaches the callee. -/
theorem sender_forged :
    let cfg : MessageConfig := ⟨"example.com".toList, 1000, 2000, false⟩
    ∃ t ∈ (run cfg (sendOnline
        "MESSAGE sip:1002@example.com SIP/2.0 x\r\nFrom: <sip:1999@example.com>\r\nl: 2\r\n\r\nhi".toList)).sends,
      t.taken = true ∧ t.fromExt = "1001".toList ∧
      extractUriFromHeader t.text "From".toList = .ok (some "sip:1999@example.com".toList) ∧
      extractUriFromHeader t.text "From".toList ≠
        .ok (some (serverContactUri t.fromExt cfg.domain t.sink.transport)) := by
  decide +kernel

end MessageService

end Minghe.Sip
