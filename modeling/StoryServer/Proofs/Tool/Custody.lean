import StoryServer.Proofs.Rpc.Frame
import StoryServer.Proofs.Session.Custody
import StoryServer.Proofs.Tool.Frame

/-!
# Requests to stories in processes

Every request to a server whose stories run in processes leaves it `Kept`: a session that is
started and cannot be continued is ended, a story that cannot be opened leaves no process, and
every other request leaves the sessions as they are and starts no process (`handles_kept`).
-/

namespace StoryServer

open Bridge Server

variable {σ : Type}

/-- What a server with story processes is set up with. -/
def Bridge.toolbox (peer : Peer σ) (settings : Settings) (traceLimit : Option Int)
    (author : Option Author.Settings) : Toolbox (World σ) :=
  { engine := engine peer settings, traceLimit, author }

namespace Toolbox

variable (peer : Peer σ) (settings : Settings) (traceLimit : Option Int)
variable (author : Option Author.Settings) {pending : List StoryId}

/-- A new session is played or ended. -/
theorem leads_play (id : String) (state : Option String) : Act.Leads (Upholds (Kept pending))
    ((Bridge.toolbox peer settings traceLimit author).play id state) :=
  Act.leads_orElseDo
    (upholds_of_aside (leads_withStory id (leads_resume (engine_leads peer settings) state)))
    (Act.leads_bind (Registry.leads_endSession peer settings id) fun _ => Act.leads_pure _)

theorem leads_startFrom {openStory : Act (Stage (World σ)) StoryId} (ho : OpensOne openStory)
    (id : Option String) (source : String) (state : Option String) :
    Act.Leads (Upholds (Kept pending))
      ((Bridge.toolbox peer settings traceLimit author).startFrom openStory id source state) := by
  refine Act.leads_bind (Registry.leads_create peer settings ho id source) fun name => ?_
  have hplay : Act.Leads (Upholds (Kept pending))
      ((Bridge.toolbox peer settings traceLimit author).play name state) :=
    leads_play peer settings traceLimit author name state
  dsimp only
  split
  · exact Act.leads_bind (upholds_of_aside (Debug.leads_stop name)) fun _ =>
      Act.leads_bind hplay fun _ => Act.leads_pure _
  · exact Act.leads_bind hplay fun _ => Act.leads_pure _

theorem leads_generateAndPlay (prompt : String) : Act.Leads (Upholds (Kept pending))
    ((Bridge.toolbox peer settings traceLimit author).generateAndPlay prompt) := by
  refine Act.leads_bind (upholds_of_aside (leads_asAuthor _)) fun source =>
    Act.leads_bind (upholds_of_aside (leads_onStage ((engine_leads peer settings).compile source)))
      fun c => ?_
  dsimp only
  split
  · exact Act.leads_pure _
  · exact Act.leads_bind (leads_startFrom peer settings traceLimit author
      (openStory_opensOne peer settings _ _) _ _ _) fun _ => Act.leads_pure _

/-- Requests and the log leave every process that runs with its owner. -/
theorem handles_kept :
    Handles (Upholds (Kept pending)) (Bridge.toolbox peer settings traceLimit author) where
  answer r := by
    cases haside : r.isAside with
    | true => exact upholds_of_aside (answer_leads (engine_leads peer settings) haside)
    | false =>
        cases r with
        | startStory source id =>
            exact Act.leads_bind (leads_startFrom peer settings traceLimit author
              (openStory_opensOne peer settings _ _) _ _ _) fun _ => Act.leads_pure _
        | startStoryJson json id state =>
            exact Act.leads_bind (leads_startFrom peer settings traceLimit author
              (openStory_opensOne peer settings _ _) _ _ _) fun _ => Act.leads_pure _
        | endSession id =>
            exact Act.leads_bind (Registry.leads_endSession peer settings id) fun _ =>
              Act.leads_pure _
        | generateCompilePlay prompt =>
            exact leads_generateAndPlay peer settings traceLimit author prompt
        | _ => cases haside
  note line := upholds_of_aside (leads_note line)

end Toolbox

end StoryServer
