import StoryServer.Proofs.Frame
import StoryServer.Web.Service

/-!
# What messages lead to

Whatever reaches a server, as a call, a message, a line or a request over HTTP, does nothing to it
but carry out requests and write to the log.  So a relation of server states along which both lead
is one along which everything else leads (`Handles`).
-/

namespace StoryServer

/-- Along a relation of server states both the requests of a toolbox and the log lead. -/
structure Handles {ε : Type} (R : Server ε → Server ε → Prop) (box : Toolbox ε) : Prop where
  answer (r : Request) : Act.Leads R (box.answer r)
  note (line : String) : Act.Leads R (Server.note line)

namespace Handles

section Server

variable {ε : Type} {R : Server ε → Server ε → Prop} [IsPreorder (Server ε) R] {box : Toolbox ε}
variable (h : Handles R box)

include h

/-- A tool that is performed reads its arguments, carries out the request and spells the answer;
only the request touches the server. -/
theorem perform (tool : Tool) (arguments : Json) : Act.Leads R (box.perform tool arguments) :=
  Act.leads_bind (Act.leads_ofExcept _) fun r => Act.leads_bind (h.answer r) fun _ =>
    Act.leads_ofExcept _

/-- A call that fails writes a line to the log, and does nothing else beyond its tool. -/
theorem call (name : String) (arguments : Json) : Act.Leads R (box.call name arguments) := by
  unfold Toolbox.call
  cases box.find? name with
  | none => exact Act.leads_pure _
  | some tool =>
      refine Act.leads_bind (Act.leads_caught (h.perform tool arguments)) fun r => ?_
      cases r with
      | ok text => exact Act.leads_pure _
      | error f => exact Act.leads_bind (h.note _) fun _ => Act.leads_pure _

end Server

section Messages

variable {ε : Type} {R : Server ε → Server ε → Prop} [IsPreorder (Server ε) R] {p : Processor ε}
variable (h : Handles R p.box)

include h

theorem method (params : Fields) (m : RpcMethod) :
    Act.Leads R (p.perform params m) := by
  cases m with
  | introduction =>
      exact Act.leads_bind (Act.leads_bind (Act.leads_ofExcept _) fun _ =>
        Act.leads_bind (Act.leads_ofExcept _) fun _ => Act.leads_bind (h.note _) fun _ =>
          Act.leads_pure _) fun _ => Act.leads_pure _
  | toolsList => exact Act.leads_pure _
  | toolsCall =>
      rw [Processor.perform]
      split
      · exact Act.leads_pure _
      · exact Act.leads_bind (h.call _ _) fun _ => Act.leads_pure _
  | ping => exact Act.leads_pure _

/-- Looking up a method touches nothing, so a message leads where its method leads. -/
theorem dispatch (name : String) (message : Fields) :
    Act.Leads R (p.dispatch name message) := by
  rw [Processor.dispatch]
  split
  · exact Act.leads_pure _
  · split
    · exact Act.leads_pure _
    · split
      · exact Act.leads_pure _
      · exact h.method _ _

/-- A method that fails inside is reported in the log. -/
theorem run (name : String) (message : Fields) :
    Act.Leads R (p.run name message) := by
  refine Act.leads_bind (Act.leads_caught (h.dispatch name message)) fun r => ?_
  cases r with
  | ok answer => exact Act.leads_pure _
  | error f => exact Act.leads_bind (h.note _) fun _ => Act.leads_pure _

/-- The response is put together from what the method answered, without another look at the
server. -/
theorem message (m : Json) : Act.Leads R (p.message m) := by
  cases m with
  | obj fields =>
      unfold Processor.message
      dsimp only
      split
      · refine Act.leads_bind (h.run _ _) fun r => ?_
        split
        · cases r <;> exact Act.leads_pure _
        · exact Act.leads_pure _
      · exact Act.leads_pure _
  | _ => exact Act.leads_pure _

/-- A text that cannot be read is answered, or is a fault, without a look at the server. -/
theorem received (text : List Char) (r : Except Json.ReadDefect Json) :
    Act.Leads R (p.received text r) := by
  unfold Processor.received
  split
  · exact h.message _
  · exact Act.leads_pure _
  · exact Act.leads_throw _
  · exact Act.leads_throw _

theorem octets (bs : Octets) : Act.Leads R (p.octets bs) := by
  rw [Processor.octets]
  split
  · exact h.received _ _
  · exact Act.leads_pure _

theorem line (s : String) : Act.Leads R (p.line s) := by
  rw [Processor.line]
  split
  · exact Act.leads_pure _
  · refine Act.leads_bind (h.received _ _) fun response => ?_
    cases response with
    | none => exact Act.leads_pure _
    | some v => exact Act.leads_bind (Act.leads_ofExcept _) fun _ => Act.leads_pure _

/-- A line leads on from where the lines before it left the server, by induction on the lines. -/
theorem lines (input : List String) : Act.Leads R (p.lines input) := by
  induction input with
  | nil => exact Act.leads_pure _
  | cons s rest ih =>
      exact Act.leads_bind (h.line s) fun _ => Act.leads_bind ih fun _ =>
        Act.leads_pure _

theorem serve (input : String) : Act.Leads R (p.serve input) :=
  Act.leads_bind (h.note _) fun _ => h.lines _

end Messages

end Handles

/-! ## Requests over HTTP -/

namespace Hub

variable {ε α : Type} {R : Server ε → Server ε → Prop}

/-- A relation of servers, as one of hubs. -/
def Over (R : Server ε → Server ε → Prop) (s t : Hub ε) : Prop := R s.server t.server

instance [IsPreorder (Server ε) R] : IsPreorder (Hub ε) (Over R) where
  refl s := refl_of R s.server
  trans _ _ _ h h' := trans_of R h h'

theorem leads_onServer {act : Act (Server ε) α} (h : Act.Leads R act) :
    Act.Leads (Over R) (onServer act) := Act.leads_within h fun _ _ ht => ht

variable [IsPreorder (Server ε) R]

/-- Channels are no part of the server, so an event that is pushed leaves the server as it is. -/
theorem leads_push (id : String) (e : ChannelEvent) : Act.Leads (Over R) (push (ε := ε) id e) :=
  fun s => refl_of R s.server

/-- A stream that is opened adds a channel to the hub and a line to the log of the server. -/
theorem leads_openStream (hnote : ∀ line, Act.Leads R (Server.note (ε := ε) line)) :
    Act.Leads (Over R) (openStream (ε := ε)) := by
  refine Act.leads_bind ?_ fun id => Act.leads_bind (leads_push id _) fun _ => Act.leads_pure id
  refine Act.leads_get_bind fun s => ?_
  exact leads_onServer (hnote _) { s with
    channels := s.channels ++ [{ id := s.ids.next.1 }], ids := s.ids.next.2 }

end Hub

namespace Handles

variable {ε : Type} {R : Server ε → Server ε → Prop} [IsPreorder (Server ε) R] {p : Processor ε}
variable (h : Handles R p.box)

include h

theorem callTool (tool : Tool) (arguments : Json) :
    Act.Leads (Hub.Over R) (Service.callTool p tool arguments) :=
  Act.leads_bind (Hub.leads_onServer (h.call _ _)) fun _ => Act.leads_pure _

theorem shortcut (toolFor : Fields → Tool) (body : Octets) :
    Act.Leads (Hub.Over R) (Service.shortcut p toolFor body) := by
  refine Act.leads_bind (Act.leads_ofExcept _) fun found => ?_
  cases found with
  | ok fields => exact h.callTool _ _
  | error reason => exact Act.leads_ofExcept _

/-- A message that is posted leads where its octets lead, with and without a channel for the
response. -/
theorem posted (query : String) (body : Octets) :
    Act.Leads (Hub.Over R) (Service.message p query body) := by
  rw [Service.message]
  split
  · refine Act.leads_bind Act.leads_get fun hub => ?_
    split
    · exact Act.leads_ofExcept _
    · refine Act.leads_bind (Hub.leads_onServer (h.octets body)) fun response => ?_
      cases response with
      | none => exact Act.leads_pure _
      | some v => exact Act.leads_bind (Hub.leads_push _ _) fun _ => Act.leads_pure _
  · refine Act.leads_bind (Hub.leads_onServer (h.octets body)) fun response => ?_
    cases response with
    | none => exact Act.leads_pure _
    | some v => exact Act.leads_ofExcept _

/-- Every route calls a tool, takes a message, opens a stream or answers at once. -/
theorem route (r : HttpRequest) (route : Route) :
    Act.Leads (Hub.Over R) (Service.answer p r route) := by
  cases route with
  | events => exact Act.leads_bind (Hub.leads_openStream h.note) fun _ => Act.leads_pure _
  | message => exact h.posted _ _
  | health => exact Act.leads_ofExcept _
  | shortcut tool => exact h.shortcut _ _
  | storyVariable => exact h.shortcut _ _
  | sessions => exact h.callTool _ _

/-- A request over HTTP does nothing to the server but what its route does. -/
theorem visit (r : HttpRequest) (hub : Hub ε) :
    R hub.server (Service.serve p r hub).2.server := by
  have hrespond : Act.Leads (Hub.Over R) (Service.respond p r) := by
    rw [Service.respond]
    split
    · exact Act.leads_pure _
    · split
      · exact h.route r _
      · exact Act.leads_pure _
  have hled := hrespond hub
  rw [Service.serve]
  split
  · exact refl_of R hub.server
  · generalize (Service.respond p r).on hub = run at hled
    obtain ⟨answer, hub'⟩ := run
    cases answer <;> exact hled

end Handles

end StoryServer
