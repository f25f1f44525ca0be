import Crewon.Verif.ExecutionAuthority
import Crewon.Verif.ModelHistoryAppend
import Crewon.Verif.ModelHistoryContext
import Crewon.Verif.ThreadLifecycle
import Crewon.Verif.WorkflowClaims
import Crewon.Verif.RunOutput
import Crewon.Verif.ToolExecution
import Crewon.Verif.CancellationWake
import Crewon.Verif.ToolApproval
import Crewon.Verif.ProviderOperations
import Crewon.Verif.RollbackTurns
import Crewon.Verif.PluginCredit
import Crewon.Verif.ProjectTextPlanSlots
import Crewon.Verif.ThreadMessageWindow
import Crewon.Verif.StableJson
import Crewon.Verif.DeviceCommandSigning
import Crewon.Verif.PluginComposition
import Crewon.Verif.WorkspaceReadDispatch
import Crewon.Verif.WorkspaceDispatch
import Crewon.Verif.WorkflowValidation
import Crewon.Verif.ContextTail
import Crewon.Verif.ModelOutputHandoff
import Crewon.Verif.RecordListing
import Crewon.Verif.ThreadListing
import Crewon.Verif.ModelVisibleToolOutput
import Crewon.Verif.ThreadGoalPrompt
import Crewon.Verif.AgentRuntimeCapacity
import Crewon.Verif.ProjectMaterialPng
