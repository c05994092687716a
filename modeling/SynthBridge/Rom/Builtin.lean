import SynthBridge.Rom.Catalog

/-!
# The built-in catalog

The known devices of two families with the ROM files that they are distributed as: full dumps
under their traditional names, and the chips of each board revision under the names that
archives use. Where both families are installed, the one named first is preferred.
-/

namespace SynthBridge

namespace Builtin

def mt32Pcm : RomFile := ⟨"pcm_mt32", "MT32_PCM.ROM"⟩

def mt32Control : RomFile := ⟨"ctrl_mt32", "MT32_CONTROL.ROM"⟩

def cm32lPcm : RomFile := ⟨"pcm_cm32l", "CM32L_PCM.ROM"⟩

def cm32lControl : RomFile := ⟨"ctrl_cm32l", "CM32L_CONTROL.ROM"⟩

/-- The chips that hold the PCM ROM. -/
def mt32PcmChip : RomFile := ⟨"pcm_mt32", "r15449121.ic37.bin"⟩

def mt32PcmLow : RomFile := ⟨"pcm_mt32_l", "r15179844.ic21.bin"⟩

def mt32PcmHigh : RomFile := ⟨"pcm_mt32_h", "r15179845.ic22.bin"⟩

def cm32lPcmHigh : RomFile := ⟨"pcm_cm32l_h", "r15179945.ic8.bin"⟩

def mt32PcmSet : RomSet := .ofFullOrPair mt32PcmChip mt32PcmLow mt32PcmHigh

/-- The lower half of the larger ROM is the smaller one. -/
def cm32lPcmSet : RomSet := .ofFullOrPair cm32lPcm mt32PcmChip cm32lPcmHigh

/-- The two control chips of a board revision, by the version in their ids and by the label on
the chips. -/
def mt32ControlPair (version label : String) : RomSet :=
  .ofPair ⟨s!"ctrl_mt32_{version}_a", label ++ ".ic27.bin"⟩
    ⟨s!"ctrl_mt32_{version}_b", label ++ ".ic26.bin"⟩

def definitions : List Catalog.Definition :=
  [⟨"cm32l", .ofFull cm32lPcm, .ofFull cm32lControl⟩,
    ⟨"cm32l_1_02", cm32lPcmSet, .ofFull ⟨"ctrl_cm32l_1_02", "cm32l_control.rom"⟩⟩,
    ⟨"cm32l_1_00", cm32lPcmSet, .ofFull ⟨"ctrl_cm32l_1_00", "lapc-i.v1.0.0.ic3.bin"⟩⟩,
    ⟨"mt32", .ofFull mt32Pcm, .ofFull mt32Control⟩,
    ⟨"mt32_2_04", mt32PcmSet, mt32ControlPair "2_04" "mt32_2.0.4"⟩,
    ⟨"mt32_bluer", mt32PcmSet, .ofPair ⟨"ctrl_mt32_bluer_a", "blue_ridge__mt32a.bin"⟩
      ⟨"ctrl_mt32_bluer_b", "blue_ridge__mt32b.bin"⟩⟩,
    ⟨"mt32_1_07", mt32PcmSet, mt32ControlPair "1_07" "mt32_1.0.7"⟩,
    ⟨"mt32_1_06", mt32PcmSet, mt32ControlPair "1_06" "mt32_1.0.6"⟩,
    ⟨"mt32_1_05", mt32PcmSet, mt32ControlPair "1_05" "mt32_1.0.5"⟩,
    ⟨"mt32_1_04", mt32PcmSet, mt32ControlPair "1_04" "mt32_1.0.4"⟩]

end Builtin

namespace Catalog

/-- The known devices, in order of preference. -/
def builtin : Except Failure Catalog := ofDefinitions Builtin.definitions

end Catalog

end SynthBridge
