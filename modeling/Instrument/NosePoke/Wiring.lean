import Instrument.Pin.Setup

/-!
# Pins of the nose-poke controller

The controller has three nose-poke ports.  Each has an infrared beam, a spare
input, a lamp and a valve.  Beside them there are four general outputs, a general
input, an input that tells of a second converter, two board lamps and a chain of
color lamps.
-/

namespace Instrument.NosePoke

/-- The infrared beam of the first poke port. -/
def beam0 : Pin := ⟨.d, 4⟩

/-- The spare input of the first poke port. -/
def spare0 : Pin := ⟨.d, 5⟩

def beam1 : Pin := ⟨.e, 4⟩

def spare1 : Pin := ⟨.e, 5⟩

def beam2 : Pin := ⟨.f, 4⟩

def spare2 : Pin := ⟨.f, 5⟩

/-- High while a second converter is present. -/
def converterPresent : Pin := ⟨.j, 0⟩

/-- The general input. -/
def generalInput : Pin := ⟨.h, 0⟩

/-- The first general output. -/
def output0 : Pin := ⟨.f, 0⟩

def output1 : Pin := ⟨.e, 0⟩

def output2 : Pin := ⟨.d, 0⟩

def output3 : Pin := ⟨.c, 0⟩

/-- The first board lamp. -/
def boardLamp0 : Pin := ⟨.b, 6⟩

def boardLamp1 : Pin := ⟨.b, 5⟩

/-- The data wire of the color lamps. -/
def colorLamps : Pin := ⟨.c, 5⟩

/-- The lamp of the first poke port. -/
def lamp0 : Pin := ⟨.d, 6⟩

/-- The valve of the first poke port. -/
def valve0 : Pin := ⟨.d, 7⟩

def lamp1 : Pin := ⟨.e, 6⟩

def valve1 : Pin := ⟨.e, 7⟩

def lamp2 : Pin := ⟨.f, 6⟩

def valve2 : Pin := ⟨.f, 7⟩

/-- The interrupt line that all inputs with an interrupt feed. -/
def inputLine : InterruptLine := .int0

/-- An input pulled up that senses both edges. -/
def pulledUp (name : String) (pin : Pin) : InputSetup :=
  { name, pin, pull := .up, sense := .bothEdges }

/-- The same input, feeding the shared interrupt line at low priority. -/
def interrupting (input : InputSetup) : InputSetup :=
  { input with interrupt := some { line := inputLine, priority := .low } }

/-- The inputs, in the order they are configured. -/
def inputs : List InputSetup := [
  interrupting (pulledUp "POKE0_IR" beam0),
  pulledUp "POKE0_IO" spare0,
  interrupting (pulledUp "POKE1_IR" beam1),
  pulledUp "POKE1_IO" spare1,
  interrupting (pulledUp "POKE2_IR" beam2),
  pulledUp "POKE2_IO" spare2,
  { name := "ADC1_AVAILABLE", pin := converterPresent, pull := .down, sense := .bothEdges },
  interrupting { name := "DI3", pin := generalInput, pull := .floating, sense := .bothEdges }]

/-- The outputs, in the order they are configured; all start inactive.  The color
lamps are never read back. -/
def outputs : List OutputSetup := [
  { name := "DO3", pin := output3 },
  { name := "DO2", pin := output2 },
  { name := "DO1", pin := output1 },
  { name := "DO0", pin := output0 },
  { name := "LED0", pin := boardLamp0 },
  { name := "LED1", pin := boardLamp1 },
  { name := "RGBS", pin := colorLamps, readable := false },
  { name := "POKE0_LED", pin := lamp0 },
  { name := "POKE0_VALVE", pin := valve0 },
  { name := "POKE1_LED", pin := lamp1 },
  { name := "POKE1_VALVE", pin := valve1 },
  { name := "POKE2_LED", pin := lamp2 },
  { name := "POKE2_VALVE", pin := valve2 }]

/-- The inputs shown by the digital input register, in the lowest bit first. -/
def shownInputs : List Pin := [beam0, beam1, beam2, generalInput]

/-- The lines driven by the output register, from the lowest bit up. -/
def drivenLines : List OutputLine := [⟨output0, false⟩, ⟨output1, false⟩, ⟨output2, false⟩,
  ⟨output3, false⟩]

end Instrument.NosePoke
