import DcasPolicyEngine.Bridge.Loop
import DcasPolicyEngine.Machine.Stuttering

/-!
# What the bridge shows

An iteration of the bridge without a speed or an LKAS sample is silent, and the others tick the
runtime. `runtimeOfBridge` is the bridge as the runtime inside it. `bridge_shows_monitor_levels`
takes this down to the purpose of the system: the driver states that the bridge shows are the levels
of the escalation monitor.
-/

namespace DcasPolicyEngine

/-- The driver state of an output. -/
def BridgeOutput.driverState (output : BridgeOutput) : DriverState := output.output.stepB.nextState

/-- The runtime inside the bridge. Every output is the output of a tick. -/
def runtimeOfBridge (config : BridgeConfig) :
    Machine.StutteringSimulation (bridge config) runtime where
  state := BridgeState.runtime
  input := BridgeOutput.tick
  output := BridgeOutput.output
  silent self input hsilent := by
    have hsilent : (BridgeState.iterate config self input).1 = none := hsilent
    rcases BridgeState.iterate_cases config self input with ⟨_, hfed⟩ | htick
    · exact congrArg FedRuntime.runtime hfed
    · rw [htick] at hsilent
      cases hsilent
  step_eq self input output houtput := by
    obtain ⟨_, hresult, hruntime⟩ := tick_of_output houtput
    show self.runtime.tick output.tick =
      (output.output, (BridgeState.iterate config self input).2.runtime)
    rw [hresult, hruntime]

/-- The driver states that the bridge shows over a run are the levels that the escalation monitor
shows for what the ticks of the bridge observe. -/
theorem bridge_shows_monitor_levels (config : BridgeConfig) (startupUs : UInt64)
    (inputs : List BridgeInput) :
    ((bridge config).shown (.start config startupUs) inputs).map BridgeOutput.driverState =
      driverMonitor.outputs (PolicyRuntime.new 1).stepBStateStore.watch
        (PolicyRuntime.monitorOfRuntime.inputs (.new 1)
          (((bridge config).shown (.start config startupUs) inputs).map BridgeOutput.tick)) := by
  have hsound := PolicyRuntime.sound_new 1
  rw [← hsound.driver_states_eq]
  have houtputs := (runtimeOfBridge config).outputs_eq (.start config startupUs) inputs
  have hruns : runtime.outputs (.new 1)
      (((bridge config).shown (.start config startupUs) inputs).map BridgeOutput.tick) =
        ((bridge config).shown (.start config startupUs) inputs).map BridgeOutput.output := houtputs
  rw [hruns, List.map_map]
  rfl

end DcasPolicyEngine
