import UnicodeText.Table.Block

namespace UnicodeText.Data

/-- Offsets into `compositionPairs` for the first code of a pair. -/
def compositionOffset : BlockTable 12 257 where
  span := 4352
  index := .ofRows 32 [
    0x000102030405060505070508090A05050B050505050505050505050C05050D0E,
    0x050F100505050505050505050505050511050505050505050505050505050505,
    0x0505050505050505050505050505050505050505050505050505050505050505,
    0x0505050505050505050505050505050505050505050505050505050505050505,
    0x0505050505050505050505050505050505050505050505050505050505050505,
    0x0505050505050505050505050505050505050505050505050505050505050505,
    0x0505050505050505050505050505050505050505050505050505050505050505,
    0x0505050505050505050505050505050505050505050505050505050505050505,
    0x0505050505050505050505050505050512130514151605050517050505050505,
    0x0505050505050505050505050505050505050505050505050505050505050505,
    0x0505050505050505050505050505050505050505050505050505050505050505,
    0x0505050505050505050505050505050505050505050505050505050505050505,
    0x0505050505050505050505050505050505050505050505050505050505050505,
    0x0505050505050505050505050505050505050505050505050505050505050505,
    0x0505050505050505050505050505050505050505050505050505050505050505,
    0x0505050505050505050505050505050505050505050505050505050505050505,
    0x0505050505050505050505050505050505050505050505050505050505050505,
    0x0505050505050505050505050505050505050505050505050505050505050505,
    0x0505050505050505050505050505050505050505050505050505050505050505,
    0x0505050505050505050505050505050505050505050505050505050505050505,
    0x0505050505050505050505050505050505050505050505050505050505050505,
    0x0505050505050505050505050505050505050505050505050505050505050505,
    0x0505050505050505050505050505050505050505050505050505050505050505,
    0x0505050505050505050505050505050505050505050505050505050505050505,
    0x0505050505050505050505050505050505050505050505050505050505050505,
    0x0505050505050505050505050505050505050505050505050505050505050505,
    0x0505050505050505050505050505050505050505050505050505050505050505,
    0x0505050505050505050505050505050505050505050505050505050505050505,
    0x0505050505050505050505050505050505050505050505050505050505050505,
    0x0505050505050505050505050505050505050505050505050505050505050505,
    0x0505050505050505050505050505050505050505050505050505050505050505,
    0x0505050505050505050505050505050505050505050505050505050505050505,
    0x0505050505050505050505050505050505050505050505050505050505050505,
    0x0505050505050505050505050505050505050505050505050505050505050505,
    0x0505050505050505050505050505050505050505050505050505050505050505,
    0x0505050505050505050505050505050505050505050505050505050505050505,
    0x0505050505050505050505050505050505050505050505050505050505050505,
    0x0505050505050505050505050505050505050505050505050505050505050505,
    0x0505050505050505050505050505050505050505050505050505050505050505,
    0x0505050505050505050505050505050505050505050505050505050505050505,
    0x0505050505050505050505050505050505050505050505050505050505050505,
    0x0505050505050505050505050505050505050505050505050505050505050505,
    0x0505050505050505050505050505050505050505050505050505050505050505,
    0x0505050505050505050505050505050505050505050505050505050505050505,
    0x0505050505050505050505050505050505050505050505050505050505050505,
    0x0505050505050505050505050505050505050505050505050505050505050505,
    0x0505050505050505050505050505050505050505050505050505050505050505,
    0x0505050505050505050505050505050505050505050505050505050505050505,
    0x0505050505050505050505050505050505050505050505050505050505050505,
    0x0505050505050505050505050505050505050505050505050505050505050505,
    0x0505050505050505050505050505050505050505050505050505050505050505,
    0x0505050505050505050505050505050505050505050505050505050505050505,
    0x0505050505050505050505050505050505050505050505050505050505050505,
    0x0505050505050505050505050505050505050505050505050505050505050505,
    0x0505050505050505050505050505050505050505050505050505050505050505,
    0x0505050505050505050505050505050505050505050505050505050505050505,
    0x0505050505050505050505050505050505050505050505050505050505050505,
    0x0505050505050505050505050505050505050505050505050505050505050505,
    0x0505050505050505050505050505050505050505050505050505050505050505,
    0x0505050505050505050505050505050505050505050505050505050505050505,
    0x0505050505050505050505050505050505050505050505050505050505050505,
    0x0505050505050505050505050505050505050505050505050505050505050505,
    0x0505050505050505050505050505050505050505050505050505050505050505,
    0x0505050505050505050505050505050505050505050505050505050505050505,
    0x0505050505050505050505050505050505050505050505050505050505050505,
    0x0505050505050505050505050505050505050505050505050505050505050505,
    0x0505050505050505050505050505050505050505050505050505050505050505,
    0x0505050505050505050505050505050505050505050505050505050505050505,
    0x0505050505050505050505050505050505050505050505050505050505050505,
    0x0505050505050505050505050505050505050505050505050505050505050505,
    0x0505050505050505050505050505050505050505050505050505050505050505,
    0x0505050505050505050505050505050505050505050505050505050505050505,
    0x0505050505050505050505050505050505050505050505050505050505050505,
    0x0505050505050505050505050505050505050505050505050505050505050505,
    0x0505050505050505050505050505050505050505050505050505050505050505,
    0x0505050505050505050505050505050505050505050505050505050505050505,
    0x0505050505050505050505050505050505050505050505050505050505050505,
    0x0505050505050505050505050505050505050505050505050505050505050505,
    0x0505050505050505050505050505050505050505050505050505050505050505,
    0x0505050505050505050505050505050505050505050505050505050505050505,
    0x0505050505050505050505050505050505050505050505050505050505050505,
    0x0505050505050505050505050505050505050505050505050505050505050505,
    0x0505050505050505050505050505050505050505050505050505050505050505,
    0x0505050505050505050505050505050505050505050505050505050505050505,
    0x0505050505050505050505050505050505050505050505050505050505050505,
    0x0505050505050505050505050505050505050505050505050505050505050505,
    0x0505050505050505050505050505050505050505050505050505050505050505,
    0x0505050505050505050505050505050505050505050505050505050505050505,
    0x0505050505050505050505050505050505050505050505050505050505050505,
    0x0505050505050505050505050505050505050505050505050505050505050505,
    0x0505050505050505050505050505050505050505050505050505050505050505,
    0x0505050505050505050505050505050505050505050505050505050505050505,
    0x0505050505050505050505050505050505050505050505050505050505050505,
    0x0505050505050505050505050505050505050505050505050505050505050505,
    0x0505050505050505050505050505050505050505050505050505050505050505,
    0x0505050505050505050505050505050505050505050505050505050505050505,
    0x0505050505050505050505050505050505050505050505050505050505050505,
    0x0505050505050505050505050505050505050505050505050505050505050505,
    0x0505050505050505050505050505050505050505050505050505050505050505,
    0x0505050505050505050505050505050505050505050505050505050505050505,
    0x0505050505050505050505050505050505050505050505050505050505050505,
    0x0505050505050505050505050505050505050505050505050505050505050505,
    0x0505050505050505050505050505050505050505050505050505050505050505,
    0x0505050505050505050505050505050505050505050505050505050505050505,
    0x0505050505050505050505050505050505050505050505050505050505050505,
    0x0505050505050505050505050505050505050505050505050505050505050505,
    0x0505050505050505050505050505050505050505050505050505050505050505,
    0x0505050505050505050505050505050505050505050505050505050505050505,
    0x0505050505050505050505050505050505050505050505050505050505050505,
    0x0505050505050505050505050505050505050505050505050505050505050505,
    0x0505050505050505050505050505050505050505050505050505050505050505,
    0x0505050505050505050505050505050505050505050505050505050505050505,
    0x0505050505050505050505050505050505050505050505050505050505050505,
    0x0505050505050505050505050505050505050505050505050505050505050505,
    0x0505050505050505050505050505050505050505050505050505050505050505,
    0x0505050505050505050505050505050505050505050505050505050505050505,
    0x0505050505050505050505050505050505050505050505050505050505050505,
    0x0505050505050505050505050505050505050505050505050505050505050505,
    0x0505050505050505050505050505050505050505050505050505050505050505,
    0x0505050505050505050505050505050505050505050505050505050505050505,
    0x0505050505050505050505050505050505050505050505050505050505050505,
    0x0505050505050505050505050505050505050505050505050505050505050505,
    0x0505050505050505050505050505050505050505050505050505050505050505,
    0x0505050505050505050505050505050505050505050505050505050505050505,
    0x0505050505050505050505050505050505050505050505050505050505050505,
    0x0505050505050505050505050505050505050505050505050505050505050505,
    0x0505050505050505050505050505050505050505050505050505050505050505,
    0x0505050505050505050505050505050505050505050505050505050505050505,
    0x0505050505050505050505050505050505050505050505050505050505050505,
    0x0505050505050505050505050505050505050505050505050505050505050505,
    0x0505050505050505050505050505050505050505050505050505050505050505,
    0x0505050505050505050505050505050505050505050505050505050505050505,
    0x0505050505050505050505050505050505050505050505050505050505050505,
    0x0505050505050505050505050505050505050505050505050505050505050505,
    0x0505050505050505050505050505050505050505050505050505050505050505,
    0x0505050505050505050505050505050505050505050505050505050505050505]
  count := 24
  cells := .ofRows 12 [
    0x000_000_000_000_000_000_000_000_000_000_000_000,
    0x000_000_000_000_000_000_000_000_000_000_000_000,
    0x000_000_000_000_000_000_000_000_000_000_000_000,
    0x000_000_000_000_000_000_000_000_000_000_000_000,
    0x000_000_000_000_000_000_000_000_000_000_000_000,
    0x000_001_002_003_003_003_013_016_01B_021_032_033,
    0x03A_041_050_051_056_05C_05F_068_078_07A_07A_082,
    0x089_090_0A3_0A5_0AB_0AD_0B6_0BC_0BC_0BC_0BC_0BC,
    0x0BC_0BC_0CC_0CF_0D4_0DA_0EB_0EC_0F3_0FB_109_10B,
    0x110_116_119_122_132_134_134_13C_143_14B_15E_160,
    0x167_169_173_179_179_179_179_179_179_179_179_179,
    0x179_179_179_179_179_179_179_179_179_179_179_179,
    0x179_179_179_179_179_179_179_179_179_179_179_179,
    0x179_179_179_179_179_179_179_179_179_179_179_179,
    0x179_17C_17C_17C_17C_17C_17C_17C_17C_17C_17C_17C,
    0x17C_17C_17C_17C_17C_17C_17C_17C_17C_17C_17C_17C,
    0x17C_17C_17C_180_180_181_182_184_185_185_185_189,
    0x189_189_189_189_18A_18A_18A_18A_18A_18E_191_192,
    0x192_193_193_193_193_197_197_197_197_197_197_19B,
    0x19B_19C_19D_19F_1A0_1A0_1A0_1A4_1A4_1A4_1A4_1A4,
    0x1A5_1A5_1A5_1A5_1A5_1A9_1AC_1AD_1AD_1AE_1AE_1AE,
    0x1AE_1B2_1B2_1B2_1B2_1B2_1B2_1B2_1B6_1BA_1BA_1BA,
    0x1BA_1BA_1BA_1BA_1BA_1BA_1BA_1BA_1BA_1BA_1BA_1BA,
    0x1BC_1BE_1BE_1BE_1BE_1BE_1BE_1BE_1BE_1BE_1BE_1BE,
    0x1BE_1BE_1BE_1BE_1BE_1BE_1BE_1BE_1BE_1BE_1BE_1BE,
    0x1BE_1BE_1BE_1BE_1BE_1BE_1BE_1BE_1BE_1BE_1BE_1BE,
    0x1BE_1BE_1BE_1BE_1BE_1BE_1BE_1BE_1BE_1BE_1BE_1BE,
    0x1BE_1BE_1BE_1BE_1BE_1BE_1BE_1BE_1BE_1BE_1C0_1C2,
    0x1C2_1C2_1C2_1C2_1C2_1C2_1C2_1C2_1C2_1C2_1C2_1C2,
    0x1C3_1C4_1C4_1C4_1C4_1C4_1C5_1C6_1C6_1C6_1C6_1C6,
    0x1C6_1C6_1C7_1C8_1C9_1CA_1CA_1CA_1CA_1CA_1CA_1CA,
    0x1CA_1CA_1CA_1CA_1CA_1CA_1CA_1CA_1CA_1CA_1CA_1CA,
    0x1CA_1CB_1CB_1CB_1CB_1CB_1CB_1CB_1CB_1CB_1CB_1CB,
    0x1CB_1CB_1CB_1CB_1CB_1CB_1CB_1CB_1CB_1CB_1CB_1CB,
    0x1CB_1CB_1CB_1CB_1CB_1CB_1CB_1CB_1CB_1CB_1D0_1D5,
    0x1D5_1D5_1D5_1D5_1D5_1D5_1D5_1D5_1D5_1D5_1D5_1D5,
    0x1D5_1DA_1DF_1DF_1DF_1DF_1DF_1DF_1DF_1E0_1E0_1E0,
    0x1E0_1E0_1E0_1E0_1E0_1E0_1E0_1E0_1E0_1E0_1E0_1E0,
    0x1E0_1E0_1E0_1E0_1E0_1E0_1E0_1E0_1E0_1E0_1E0_1E0,
    0x1E0_1E0_1E0_1E0_1E0_1E0_1E0_1E0_1E0_1E0_1E0_1E0,
    0x1E0_1E0_1E0_1E0_1E0_1E0_1E0_1E0_1E0_1E0_1E0_1E0,
    0x1E1_1E2_1E2_1E2_1E2_1E2_1E2_1E2_1E2_1E2_1E2_1E2,
    0x1E2_1E2_1E2_1E2_1E2_1E2_1E2_1E2_1E2_1E2_1E2_1E2,
    0x1E2_1E2_1E2_1E2_1E2_1E2_1E2_1E2_1E2_1E2_1E2_1E2,
    0x1E2_1E2_1E2_1E2_1E2_1E2_1E2_1E2_1E2_1E2_1E2_1E2,
    0x1E2_1E2_1E2_1E2_1E2_1E2_1E2_1E2_1E2_1E2_1E2_1E2,
    0x1E2_1E3_1E4_1E5_1E6_1E6_1E6_1E6_1E6_1E7_1E8_1E8,
    0x1E8_1E8_1E8_1E8_1E8_1E8_1E8_1E8_1E8_1E8_1E8_1E8,
    0x1E8_1E8_1E8_1E8_1E8_1E8_1E8_1E8_1E8_1E8_1E8_1E8,
    0x1E8_1E8_1E8_1E8_1E8_1E8_1E8_1E8_1E8_1E8_1E8_1E8,
    0x1E8_1E8_1E8_1E8_1E8_1E8_1E8_1E8_1E8_1E8_1E8_1E8,
    0x1E8_1E8_1E8_1E8_1E8_1E8_1E8_1E8_1E8_1E8_1E8_1E8,
    0x1E8_1E8_1E8_1E8_1E8_1E8_1E8_1E8_1E8_1E8_1E8_1E8,
    0x1E8_1E8_1E8_1E8_1E8_1E8_1E8_1E8_1E8_1E8_1E8_1E8,
    0x1E8_1E8_1E8_1E8_1E8_1E8_1E8_1E8_1E8_1E8_1E8_1E8,
    0x1E8_1E9_1E9_1E9_1E9_1E9_1E9_1E9_1E9_1E9_1E9_1E9,
    0x1E9_1E9_1E9_1E9_1E9_1E9_1E9_1E9_1E9_1E9_1E9_1E9,
    0x1E9_1E9_1E9_1E9_1E9_1E9_1E9_1E9_1E9_1E9_1E9_1E9,
    0x1E9_1E9_1E9_1E9_1E9_1E9_1E9_1E9_1E9_1E9_1E9_1E9,
    0x1E9_1E9_1E9_1E9_1E9_1E9_1E9_1E9_1E9_1E9_1E9_1E9,
    0x1E9_1E9_1E9_1E9_1E9_1E9_1E9_1E9_1E9_1E9_1E9_1E9,
    0x1E9_1E9_1E9_1E9_1E9_1E9_1E9_1E9_1E9_1E9_1E9_1E9,
    0x1E9_1E9_1E9_1E9_1E9_1E9_1E9_1E9_1E9_1E9_1E9_1E9,
    0x1E9_1E9_1E9_1E9_1E9_1E9_1E9_1E9_1E9_1E9_1E9_1E9,
    0x1E9_1E9_1E9_1E9_1E9_1E9_1E9_1E9_1E9_1E9_1E9_1E9,
    0x1E9_1E9_1E9_1E9_1E9_1E9_1E9_1E9_1E9_1E9_1E9_1E9,
    0x1E9_1E9_1E9_1E9_1E9_1E9_1E9_1E9_1E9_1E9_1E9_1E9,
    0x1E9_1E9_1E9_1E9_1E9_1E9_1E9_1E9_1E9_1E9_1E9_1E9,
    0x1E9_1E9_1E9_1E9_1E9_1E9_1E9_1E9_1E9_1E9_1E9_1E9,
    0x1E9_1E9_1E9_1E9_1E9_1E9_1E9_1E9_1E9_1E9_1E9_1E9,
    0x1E9_1E9_1E9_1E9_1E9_1E9_1E9_1E9_1E9_1E9_1E9_1E9,
    0x1E9_1E9_1E9_1E9_1E9_1E9_1E9_1E9_1E9_1E9_1E9_1E9,
    0x1E9_1E9_1E9_1E9_1E9_1E9_1E9_1E9_1E9_1E9_1E9_1E9,
    0x1E9_1E9_1E9_1E9_1E9_1E9_1E9_1E9_1E9_1E9_1E9_1E9,
    0x1E9_1E9_1E9_1E9_1E9_1E9_1E9_1E9_1E9_1E9_1E9_1E9,
    0x1E9_1E9_1E9_1E9_1E9_1E9_1E9_1E9_1E9_1E9_1E9_1E9,
    0x1E9_1E9_1E9_1E9_1E9_1F0_1F0_1F0_1F0_1F4_1F4_1F9,
    0x1F9_200_200_200_200_200_200_204_204_205_205_205,
    0x205_20B_20B_20B_20B_210_210_210_211_211_212_212,
    0x212_21A_21A_21A_21A_21E_21E_224_224_22C_22C_22C,
    0x22C_22C_22C_230_230_232_232_232_232_23A_23A_23A,
    0x23A_240_243_246_246_246_247_247_247_247_249_249,
    0x249_249_249_249_249_249_249_249_249_249_249_249,
    0x249_249_249_249_249_249_249_249_249_249_249_249,
    0x249_249_249_249_249_249_249_249_249_249_249_249,
    0x249_249_249_249_249_249_249_249_249_249_249_249,
    0x249_249_249_24A_24A_24A_24A_24A_24A_24A_24A_24A,
    0x24A_24C_24C_24C_24D_24D_250_252_253_257_257_258,
    0x258_258_258_259_259_259_259_259_25D_25D_25D_25D,
    0x25E_25E_25E_25E_25F_25F_260_260_260_262_262_262,
    0x263_263_266_268_269_26D_26D_26E_26E_26E_26E_26F,
    0x26F_26F_26F_26F_273_273_273_273_274_274_274_274,
    0x275_275_276_276_276_276_276_276_276_276_276_277,
    0x277_277_277_277_277_277_277_277_277_277_277_277,
    0x277_277_277_277_277_277_277_277_277_277_277_277,
    0x277_277_277_277_277_278_279_279_279_279_279_279,
    0x279_279_279_279_279_279_279_279_279_279_279_279,
    0x279_279_279_279_279_279_279_279_279_279_279_279,
    0x279_279_279_279_279_279_279_279_279_279_279_279,
    0x279_279_279_279_279_279_279_279_279_279_279_279,
    0x279_279_279_279_279_279_279_279_279_279_279_279,
    0x279_279_279_279_279_279_279_279_279_279_279_279,
    0x279_279_279_279_279_279_279_279_279_279_279_279,
    0x279_279_279_279_279_279_279_279_279_27A_27B_27B,
    0x27B_27B_27B_27B_27B_27B_27B_27B_27B_27B_27B_27B,
    0x27B_27C_27D_27D_27D_27D_27D_27D_27D_27D_27D_27D,
    0x27D_27D_27D_27D_27D_27D_27D_27D_27D_27D_27D_27D,
    0x27D_000_000_000_000_000_000_000_000_000_000_000,
    0x000_000_000_000_000_000_000_000_000_000_000_000,
    0x000_000_000_000_000_000_000_000_000_000_000_000,
    0x000_000_000_000_000_000_000_000_000_000_000_000,
    0x000_000_000_000_000_000_000_000_000_000_000_000,
    0x000_000_000_000_000_000_000_000_000_000_000_000,
    0x000_000_000_000_000_000_000_000_000_000_000_000,
    0x000_000_000_000_000_000_000_000_000_000_000_000,
    0x000_000_000_000_000_000_000_000_000_000_000_000,
    0x000_000_000_000_000_000_000_000_000_000_000_000,
    0x000_000_000_000_000_000_000_000_000_000_000_000,
    0x000_000_000_000_000_000_000_000_000_000_000_000,
    0x000_000_000_000_000_000_000_000_000_000_000_000,
    0x000_000_000_000_000_000_000_000_000_000_000_000,
    0x000_000_000_000_000_000_000_000_000_000_000_000,
    0x000_000_000_000_000_000_000_000_000_000_000_000,
    0x000_000_000_000_000_000_000_000_000_000_000_000,
    0x000_000_000_000_000_000_000_000_000_000_000_000,
    0x000_000_000_000_000_000_000_000_000_000_000_000,
    0x000_000_000_000_000_000_000_000_000_000_000_000,
    0x000_000_000_000_000_000_000_000_000_000_000_000,
    0x000_000_000_000_000_000_27D_27D_27D_27D_27D_27D,
    0x27D_27D_27D_27D_27D_27D_27D_27D_27D_27D_27D_27D,
    0x27D_27D_27D_27D_27D_27D_27D_27D_27D_27D_27D_27D,
    0x27D_27D_27D_27D_27D_27D_27D_27D_27D_27D_280_280,
    0x280_280_280_280_280_280_280_280_280_280_280_280,
    0x280_280_280_280_280_280_280_280_280_280_280_280,
    0x280_280_280_280_280_280_280_281_281_282_282_282,
    0x282_282_282_282_282_282_282_282_282_282_282_282,
    0x282_282_282_282_282_282_282_282_282_282_282_282,
    0x282_282_282_282_282_282_282_282_282_282_282_282,
    0x282_282_282_282_282_282_282_282_282_282_282_282,
    0x282_282_282_282_282_282_282_282_282_282_282_282,
    0x282_282_282_282_282_282_282_282_282_282_282_282,
    0x282_282_282_282_282_282_282_282_282_282_282_282,
    0x282_282_282_282_282_282_282_282_282_282_282_282,
    0x282_282_282_282_282_282_282_282_282_282_282_282,
    0x282_282_282_282_282_282_282_282_283_283_283_283,
    0x283_283_283_283_283_283_283_283_283_283_283_283,
    0x283_284_284_284_285_285_285_285_285_285_285_285,
    0x285_285_285_285_285_285_285_285_285_285_285_285,
    0x285_285_285_285_285_285_285_285_285_285_285_285,
    0x285_285_285_285_285_285_285_285_285_285_285_285,
    0x285_285_285_285_285_285_285_285_285_285_285_285,
    0x285_285_285_285_285_285_285_285_285_285_285_285,
    0x285_285_285_285_285_285_285_285_285_285_285_285,
    0x285_285_285_285_286_286_286_286_286_286_286_286,
    0x287_287_287_288_288_288_288_288_288_288_288_288,
    0x288_288_288_288_288_288_288_288_288_288_288_288,
    0x288_288_288_288_288_288_288_288_288_288_288_288,
    0x288_288_288_288_288_288_288_288_288_288_288_288,
    0x288_288_288_288_288_288_288_288_288_288_288_288,
    0x288_288_288_288_288_288_288_288_288_288_288_288,
    0x288_288_288_288_288_288_288_288_288_288_288_288,
    0x288_288_288_288_288_288_288_288_288_288_288_288,
    0x288_288_288_288_288_288_288_288_288_288_288_288,
    0x288_288_288_288_288_288_288_288_288_288_288_288,
    0x288_288_288_288_288_288_288_288_288_288_288_288,
    0x288_288_288_288_288_288_288_288_288_288_288_288,
    0x288_288_288_288_288_288_288_28A_28A_28A_28A_28A,
    0x28A_28A_28A_28A_28A_28A_28A_28A_28A_28A_28A_28A,
    0x28A_28A_28A_28A_28A_28A_28A_28A_28A_28A_28A_28A,
    0x28A_28A_28A_28A_28A_28A_28A_28A_28A_28A_28A_28A,
    0x28A_28A_28A_28A_28A_28A_28A_28A_28A_28A_28A_28A,
    0x28A_28A_28A_28A_28A_28A_28A_28A_28A_28A_28A_28A,
    0x28A_28A_28A_28A_28A_28A_28A_28A_28A_28A_28A_28A,
    0x28A_28A_28A_28A_28A_28A_28A_28A_28A_28A_28A_28A,
    0x28A_28A_28A_28A_28A_28A_28A_28A_28A_28A_28A_28A,
    0x28A_28A_28A_28A_28A_28A_28A_28A_28A_28A_28A_28A,
    0x28A_28A_28A_28A_28A_28A_28A_28A_28A_28A_28A_28A,
    0x28A_28A_28A_28A_28D_28D_28D_28D_28D_28D_28D_28D,
    0x28D_28D_28D_28D_28D_28D_28D_28D_28D_28D_28D_28D,
    0x28D_28D_28D_28D_28D_28D_28D_28D_28D_28D_28D_28D,
    0x28D_28D_28D_28D_28D_28D_28D_28D_28D_28D_28D_28D,
    0x28D_28D_28D_28D_28D_28D_28D_28D_28D_28D_28D_28D,
    0x28D_28D_28D_28D_28D_28D_28D_28D_28D_28D_28D_28D,
    0x28D_28D_28D_28D_28D_28D_28D_28E_28E_28E_28E_28E,
    0x28E_28E_28E_28E_28E_28E_28E_28E_28E_28E_28E_28E,
    0x28E_28E_28E_28E_28E_28E_28E_28E_28E_28E_28E_28E,
    0x28E_28E_28E_28E_28E_28E_28E_28E_28E_28E_28E_28E,
    0x28E_28E_28E_28E_28E_28E_28E_28E_28E_28E_28E_290,
    0x291_291_291_291_291_291_291_291_291_291_291_291,
    0x291_291_291_291_291_291_291_291_291_291_291_291,
    0x291_291_291_291_291_291_291_291_291_291_291_291,
    0x291_291_291_291_291_291_291_291_291_291_291_291,
    0x291_291_291_291_291_291_291_291_291_291_291_291,
    0x291_291_291_291_291_291_291_291_291_291_291_291,
    0x291_291_291_291_291_291_291_291_291_291_291_291,
    0x291_291_291_291_291_291_291_291_291_291_291_291,
    0x291_291_291_291_291_291_291_291_291_291_291_291,
    0x291_291_291_291_291_291_291_291_291_291_291_291,
    0x291_291_291_291_291_291_291_291_292_292_292_292,
    0x292_292_292_292_292_292_292_292_292_292_292_292,
    0x292_292_292_292_292_292_292_292_292_292_292_292,
    0x292_292_292_292_292_292_292_292_292_292_292_292,
    0x292_292_292_292_292_292_292_292_292_292_292_292,
    0x292_292_292_292_292_292_292_292_292_292_292_292,
    0x292_292_292_292_292_292_292_292_292_292_292_292,
    0x292_292_292_292_292_292_292_292_292_292_292_292,
    0x292_292_292_292_292_292_292_292_292_292_292_292,
    0x292_292_292_292_292_292_292_292_292_292_292_292,
    0x292_292_292_292_292_292_292_292_292_293_293_293,
    0x293_293_293_293_296_296_296_296_297_297_297_297,
    0x297_297_297_297_297_297_297_297_297_297_297_297,
    0x297_297_297_297_297_297_297_297_297_297_297_297,
    0x297_297_297_297_297_297_297_297_297_297_297_297,
    0x297_297_297_297_297_297_297_297_297_297_297_297,
    0x297_297_297_297_297_297_297_297_297_297_297_297,
    0x297_297_297_297_297_297_297_297_297_297_297_297,
    0x297_297_297_297_297_297_297_297_297_297_297_297,
    0x297_297_297_297_297_297_297_297_297_297_297_297,
    0x297_297_297_297_297_297_297_297_297_297_297_297,
    0x297_297_297_297_297_297_297_297_297_297_297_297,
    0x297_299_29A_29A_29A_29A_29A_29A_29A_29A_29A_29A,
    0x29A_29A_29A_29A_29A_29A_29A_29A_29A_29A_29A_29A,
    0x29A_29A_29A_29A_29A_29A_29A_29A_29A_29A_29A_29A,
    0x29A_29A_29A_29A_29A_29A_29A_29A_29A_29A_29A_29A,
    0x29A_29A_29A_29A_29A_29A_29A_29A_29A_29A_29A_29A,
    0x29A_29A_29A_29A_29A_29A_29A_29A_29A_29A_29A_29A,
    0x29A_29A_29A_29A_29A_29A_29A_29A_29A_29A_29A_29A,
    0x29A_29A_29A_29A_29A_29A_29A_29A_29A_29A_29A_29A,
    0x29A_29A_29A_29A_29A_29A_29A_29A_29A_29A_29A_29A,
    0x29A_29A_29A_29A_29A_29A_29A_29A_29A_29A_29A_29A,
    0x29A_29A_29A_29A_29A_29A_29A_29A_29A_29A_29A_29A,
    0x29A_29A_29A_29A_29A_29A_29A_29A_29A_29A_29A_29A,
    0x29A_29A_29A_29A_29D_29D_29D_29E_29E_29E_29E_29E,
    0x29E_29E_29E_29E_29E_29E_29E_29E_29E_29E_29E_29E,
    0x29E_29E_29E_29E_29E_29E_29E_29E_29E_29E_29E_29E,
    0x29E_29E_29E_29E_29E_29E_29E_29E_29E_29E_29E_29E,
    0x29E_29E_29E_29E_29E_29E_29E_29E_29E_29E_29E_29E,
    0x29E_29E_29E_29E_29E_29E_29E_29E_29E_29E_29E_29E,
    0x29E_29E_29E_29E_29E_29E_29E_29E_29E_29F_29F_29F,
    0x29F_29F_29F_29F_29F_29F_29F_29F_29F_29F_29F_29F,
    0x29F_29F_29F_29F_29F_29F_29F_29F_29F_29F_29F_29F,
    0x29F_29F_29F_29F_29F_29F_29F_29F_29F_29F_29F_29F,
    0x29F_29F_29F_29F_29F_29F_29F_29F_29F_29F_29F_29F,
    0x29F_29F_29F_29F_29F_29F_29F_29F_29F_29F_29F_29F,
    0x29F_29F_29F_29F_29F_29F_29F_29F_29F_29F_29F_29F,
    0x29F_29F_29F_29F_29F_29F_29F_29F_29F_29F_29F_29F,
    0x29F_29F_29F_29F_29F_29F_29F_29F_29F_29F_29F_29F,
    0x29F_29F_29F_29F_29F_29F_29F_29F_29F_29F_29F_29F,
    0x29F_29F_29F_29F_29F_29F_29F_29F_29F_29F_29F_29F,
    0x29F_29F_29F_29F_29F_29F_29F_29F_29F_29F_29F_29F,
    0x29F_29F_29F_29F_29F_29F_29F_29F_29F_29F_29F_29F,
    0x29F_29F_29F_29F_29F_29F_29F_29F_29F_29F_29F_29F,
    0x29F_29F_29F_29F_29F_29F_29F_29F_29F_29F_29F_29F,
    0x29F_29F_29F_29F_29F_29F_29F_29F_29F_29F_29F_29F,
    0x29F_29F_29F_29F_29F_29F_29F_29F_29F_29F_29F_29F,
    0x29F_29F_29F_29F_29F_29F_29F_29F_29F_29F_29F_29F,
    0x29F_29F_29F_29F_29F_29F_29F_29F_29F_29F_29F_29F,
    0x29F_29F_29F_29F_29F_29F_2A0_2A0_2A1_2A1_2A2_2A2,
    0x2A3_2A3_2A4_2A4_2A4_2A4_2A5_2A5_2A5_2A5_2A5_2A5,
    0x2A5_2A5_2A5_2A5_2A5_2A5_2A5_2A5_2A5_2A5_2A5_2A5,
    0x2A5_2A5_2A5_2A5_2A5_2A5_2A5_2A5_2A5_2A5_2A5_2A5,
    0x2A5_2A5_2A5_2A5_2A5_2A5_2A5_2A5_2A5_2A5_2A5_2A6,
    0x2A6_2A7_2A7_2A8_2A9_2A9_2A9_2AA_2AA_2AA_2AA_2AA,
    0x2AA_2AA_2AA_2AA_2AA_2AA_2AA_2AA_2AA_2AA_2AA_2AA,
    0x2AA_2AA_2AA_2AA_2AA_2AA_2AA_2AA_2AA_2AA_2AA_2AA,
    0x2AA_2AA_2AA_2AA_2AA_2AA_2AA_2AA_2AA_2AA_2AA_2AA,
    0x2AA_2AA_2AA_2AA_2AA_2AA_2AA_2AA_2AA_2AA_2AA_2AA,
    0x2AA_2AA_2AA_2AA_2AA_2AA_2AA_2AA_2AA_2AA_2AA_2AA,
    0x2AA_2AA_2AA_2AA_2AA_2AA_2AA_2AA_2AA_2AA_2AA_2AA,
    0x2AA_2AA_2AA_2AA_2AA_2AA_2AA_2AA_2AA_2AA_2AA_2AA,
    0x2AA_2AA_2AA_2AA_2AA_2AA_2AA_2AA_2AA_2AA_2AA_2AA,
    0x2AA_2AA_2AA_2AA_2AA_2AA_2AA_2AA_2AA_2AA_2AA_2AA,
    0x2AA_2AA_2AA_2AA_2AA_2AA_2AA_2AA_2AA_2AA_2AA_2AA,
    0x2AA_2AA_2AA_2AA_2AA_2AA_2AA_2AA_2AA_2AA_2AA_2AA,
    0x2AA_2AA_2AA_2AA_2AA_2AA_2AA_2AA_2AA_2AA_2AA_2AA,
    0x2AA_2AA_2AA_2AA_2AA_2AA_2AA_2AA_2AA_2AA_2AA_2AA,
    0x2AA_2AA_2AA_2AA_2AA_2AA_2AA_2AA_2AA_2AA_2AA_2AA,
    0x2AA_2AA_2AA_2AA_2AA_2AA_2AA_2AA_2AA_2AA_2AA_2AA,
    0x2AA_2AA_2AA_2AA_2AA_2AA_2AA_2AA_2AA_2AA_2AA_2AA,
    0x2AA_2AA_2AA_2AA_2AA_2AA_2AA_2AA_2AA_2AA_2AA_2AA,
    0x2AA_2AA_2AA_2AA_2AA_2AA_2AA_2AA_2AA_2AA_2AA_2AA,
    0x2AA_2AA_2AA_2AA_2AA_2AA_2AA_2AA_2AA_2AA_2AA_2AA,
    0x2AA_2AA_2AA_2AA_2AA_2AA_2AA_2AA_2AA_2AA_2AA_2AA,
    0x2AB_2AC_2AC_2AC_2AC_2AC_2AC_2AC_2AC_2AC_2AC_2AC,
    0x2AC_2AC_2AC_2AC_2AC_2AC_2AC_2AC_2AC_2AC_2AC_2AC,
    0x2AC_2AC_2AC_2AC_2AC_2AC_2AC_2AC_2AC_2AC_2AC_2AC,
    0x2AD_2AE_2AE_2AE_2AE_2AE_2AE_2AE_2AF_2B0_2B0_2B0,
    0x2B0_2B0_2B0_2B0_2B0_2B0_2B0_2B0_2B0_2B0_2B0_2B0,
    0x2B0_2B0_2B0_2B0_2B0_2B0_2B0_2B0_2B0_2B0_2B0_2B0,
    0x2B0_2B0_2B0_2B0_2B0_2B0_2B0_2B0_2B0_2B0_2B0_2B0,
    0x2B0_2B0_2B0_2B0_2B0_2B0_2B0_2B0_2B0_2B0_2B0_2B0,
    0x2B0_2B0_2B0_2B0_2B0_2B0_2B0_2B0_2B0_2B0_2B2_2B4,
    0x2B4_2B4_2B4_2B4_2B4_2B4_2B4_2B4_2B4_2B4_2B4_2B4,
    0x2B4_2B4_2B4_2B4_2B4_2B4_2B4_2B4_2B4_2B4_2B5_2B6,
    0x2B6_2B6_2B6_2B6_2B6_2B6_2B6_2B6_2B6_2B6_2B6_2B6,
    0x2B6_2B6_2B6_2B6_2B6_2B6_2B7_2B8_2B8_2B8_2B8_2B8,
    0x2B8_2B8_2B8_2B8_2B8_2B8_2B8_2B8_2B8_2B8_2B8_2B8,
    0x2B8_2B8_2B8_2B8_2B8_2B8_2B8_2B8_2B8_2B8_2B8_2B8,
    0x2B8_2B8_2B8_2B8_2B8_2B8_2B8_2B8_2B8_2B8_2B8_2B8,
    0x2B8_2B8_2B8_2B8_2B8_2B8_2B8_2B8_2B8_2B8_2B8_2BC,
    0x2C0_2C1_2C2_2C3_2C4_2C5_2C6_2CA_2CE_2CF_2D0_2D1,
    0x2D2_2D3_2D4_2D6_2D8_2D8_2D8_2D8_2D8_2D8_2D8_2DA,
    0x2DC_2DC_2DC_2DC_2DC_2DC_2DC_2E0_2E4_2E5_2E6_2E7,
    0x2E8_2E9_2EA_2EE_2F2_2F3_2F4_2F5_2F6_2F7_2F8_2FB,
    0x2FE_2FE_2FE_2FE_2FE_2FE_2FE_301_304_304_304_304,
    0x304_304_304_306_308_308_308_308_308_308_308_30A,
    0x30C_30C_30C_30C_30C_30C_30C_30F_312_312_312_312,
    0x312_312_312_312_315_315_315_315_315_315_315_319,
    0x31D_31E_31F_320_321_322_323_327_32B_32C_32D_32E,
    0x32F_330_331_332_332_332_332_333_333_333_333_333,
    0x333_333_333_334_334_334_334_334_334_334_334_334,
    0x334_334_334_334_334_334_334_334_334_334_334_334,
    0x334_334_334_334_334_334_334_334_334_334_334_334,
    0x334_334_334_334_334_334_334_334_334_334_334_334,
    0x334_334_334_334_334_334_334_334_334_334_334_334,
    0x334_335_335_335_335_335_335_335_335_335_338_338,
    0x338_338_338_338_338_339_339_339_339_339_339_339,
    0x339_339_339_339_339_339_339_339_339_339_339_339,
    0x339_339_339_339_339_339_339_339_339_339_339_339,
    0x339_339_339_339_339_339_339_339_339_339_339_339,
    0x339_339_339_339_339_33A_33A_33A_33A_33A_33A_33A,
    0x33A_33D_33D_33D_33D_33D_33D_33D_33D_33D_33D_33D,
    0x33D_33D_33D_33D_33D_33D_33D_33D_33D_33D_33D_33D,
    0x33D_33D_33D_33D_33D_33D_33D_33D_33D_33D_33D_33D,
    0x33D_33D_33D_33D_33D_33D_33D_33D_33D_33D_33D_33D,
    0x33D_33D_33D_33D_33D_33D_33D_33D_33D_33D_33D_33D,
    0x33D_33D_33D_33D_33D_33D_33D_33D_33D_33D_33D_33D,
    0x33D_33D_33D_33D_33D_33D_33D_33D_33D_33D_33D_33D,
    0x33D_33D_33D_33D_33D_33D_33D_33D_33D_33D_33D_33D,
    0x33D_33D_33D_33D_33D_33D_33D_33D_33D_33D_33D_33D,
    0x33D_33D_33D_33D_33D_33D_33D_33D_33D_33D_33D_33D,
    0x33D_33D_33D_33D_33D_33D_33D_33D_33D_33D_33D_33D,
    0x33D_33D_33D_33D_33D_33D_33D_33D_33D_33D_33D_33D,
    0x33D_33D_33D_33D_33E_33E_33F_33F_340_340_340_340,
    0x340_340_340_340_340_340_340_340_340_340_340_340,
    0x340_340_340_340_340_340_340_340_340_340_340_340,
    0x340_340_340_340_340_340_340_340_340_340_340_340,
    0x340_340_340_340_340_340_340_340_340_340_340_340,
    0x340_340_340_340_340_340_340_340_341_341_342_342,
    0x343_343_343_343_343_343_343_343_343_343_343_343,
    0x343_343_343_343_343_343_343_343_343_343_343_343,
    0x343_343_343_343_343_343_343_343_343_343_343_343,
    0x343_343_343_343_343_343_343_343_343_343_343_343,
    0x344_344_344_344_344_345_345_345_346_346_346_346,
    0x346_346_346_346_346_346_346_346_346_346_346_346,
    0x346_346_346_346_346_346_346_346_347_347_348_348,
    0x348_348_348_348_348_348_348_348_348_348_348_348,
    0x348_348_348_348_348_348_348_348_348_349_349_349,
    0x349_349_349_349_34A_34A_34B_34B_34B_34C_34C_34C,
    0x34C_34C_34D_34D_34D_34D_34D_34D_34D_34D_34D_34D,
    0x34D_34D_34D_34D_34D_34D_34D_34D_34D_34D_34E_34E,
    0x34E_34F_350_350_350_350_350_350_350_350_350_350,
    0x350_350_350_351_352_352_352_353_354_354_354_355,
    0x356_357_358_358_358_358_358_359_35A_35A_35A_35B,
    0x35C_35C_35C_35C_35C_35C_35C_35C_35C_35C_35D_35E,
    0x35E_35E_35E_35E_35E_35E_35E_35E_35E_35E_35E_35E,
    0x35E_35E_35E_35F_35F_35F_35F_35F_35F_360_361_361,
    0x362_362_362_362_362_362_362_363_364_365_366_366,
    0x366_366_366_366_366_366_366_366_366_366_366_366,
    0x366_366_366_366_366_366_366_366_366_366_366_366,
    0x366_366_366_366_366_366_366_366_366_366_366_366,
    0x366_366_366_366_366_366_366_366_366_366_366_366,
    0x366_366_366_366_366_366_366_366_366_366_366_366,
    0x366_366_366_366_366_366_366_366_366_366_366_366,
    0x366_366_366_366_366_366_366_366_366_366_366_366,
    0x366_366_366_366_366_366_366_366_366_366_366_366,
    0x366_366_366_366_366_366_366_366_366_366_366_366,
    0x366_366_366_366_366_366_366_366_366_366_366_366,
    0x366_366_366_366_366_366_366_366_366_366_366_366,
    0x366_366_366_366_366_366_366_366_366_366_366_366,
    0x367_367_367_367_367_368_368_369_369_36A_36A_36B,
    0x36B_36C_36C_36D_36D_36E_36E_36F_36F_370_370_371,
    0x371_372_372_373_373_373_374_374_375_375_376_376,
    0x376_376_376_376_376_378_378_378_37A_37A_37A_37C,
    0x37C_37C_37E_37E_37E_380_380_380_380_380_380_380,
    0x380_380_380_380_380_380_380_380_380_380_380_380,
    0x380_380_380_380_380_380_380_380_380_380_380_380,
    0x380_380_380_381_381_381_381_381_381_381_381_381,
    0x382_382_382_382_382_383_383_384_384_385_385_386,
    0x386_387_387_388_388_389_389_38A_38A_38B_38B_38C,
    0x38C_38D_38D_38E_38E_38E_38F_38F_390_390_391_391,
    0x391_391_391_391_391_393_393_393_395_395_395_397,
    0x397_397_399_399_399_39B_39B_39B_39B_39B_39B_39B,
    0x39B_39B_39B_39B_39B_39B_39B_39B_39B_39B_39B_39B,
    0x39B_39C_39D_39E_39F_39F_39F_39F_39F_39F_39F_39F,
    0x39F_39F_39F_3A0_3A0_3A0_3A0_3A0_3A0_3A0_3A0_3A0,
    0x3A0_3A0_3A0_3A0_3A0_3A0_3A0_3A0_3A0_3A0_3A0_3A0,
    0x3A0_3A0_3A0_3A0_3A0_3A0_3A0_3A0_3A0_3A0_3A0_3A0,
    0x3A0_3A0_3A0_3A0_3A0_3A0_3A0_3A0_3A0_3A0_3A0_3A0,
    0x3A0_3A0_3A0_3A0_3A0_3A0_3A0_3A0_3A0_3A0_3A0_3A0,
    0x3A0_3A0_3A0_3A0_3A0_3A0_3A0_3A0_3A0_3A0_3A0_3A0,
    0x3A0_3A0_3A0_3A0_3A0_3A0_3A0_3A0_3A0_3A0_3A0_3A0,
    0x3A0_3A0_3A0_3A0_3A0_3A0_3A0_3A0_3A0_3A0_3A0_3A0,
    0x3A0_3A0_3A0_3A0_3A0_3A0_3A0_3A0_3A0_3A0_3A0_3A0,
    0x3A0_3A0_3A0_3A0_3A0_3A0_3A0_3A0_3A0_3A0_3A0_3A0,
    0x3A0_3A0_3A0_3A0_3A0_3A0_3A0_3A0_3A0_3A0_3A0_3A0,
    0x3A0_3A0_3A0_3A0_3A0_3A0_3A0_3A0_3A0_3A0_3A0_3A0,
    0x3A0_3A0_3A0_3A0_3A0_3A0_3A0_3A0_3A0_3A0_3A0_3A0,
    0x3A0_3A0_3A0_3A0_3A1_3A1_3A2_3A2_3A2_3A2_3A2_3A2,
    0x3A2_3A2_3A2_3A2_3A3_3A3_3A3_3A3_3A3_3A3_3A3_3A3,
    0x3A3_3A3_3A3_3A3_3A3_3A3_3A3_3A3_3A3_3A3_3A3_3A3,
    0x3A3_3A3_3A3_3A3_3A3_3A3_3A3_3A3_3A3_3A3_3A3_3A3,
    0x3A3_3A3_3A3_3A3_3A3_3A3_3A3_3A3_3A3_3A3_3A3_3A3,
    0x3A3_3A3_3A3_3A3_3A3_3A3_3A3_3A3_3A3_3A3_3A3_3A3,
    0x3A3_3A3_3A3_3A3_3A3_3A3_3A3_3A3_3A3_3A3_3A3_3A3,
    0x3A3_3A3_3A3_3A3_3A3_3A3_3A3_3A3_3A3_3A3_3A3_3A3,
    0x3A3_3A3_3A3_3A3_3A3_3A3_3A3_3A3_3A3_3A3_3A3_3A3,
    0x3A3_3A3_3A3_3A3_3A3_3A3_3A3_3A3_3A3_3A3_3A3_3A3,
    0x3A3_3A3_3A3_3A3_3A3_3A3_3A3_3A3_3A3_3A3_3A3_3A3,
    0x3A3_3A3_3A3_3A3_3A3_3A3_3A3_3A3_3A3_3A3_3A3_3A3,
    0x3A3_3A3_3A3_3A3_3A3_3A3_3A3_3A3_3A3_3A3_3A3_3A3,
    0x3A3_3A4_3A5_3A5_3A5_3A5_3A5_3A5_3A5_3A5_3A5_3A5,
    0x3A5_3A5_3A5_3A5_3A5_3A5_3A5_3A5_3A5_3A5_3A5_3A5,
    0x3A5_3A5_3A5_3A5_3A5_3A5_3A5_3A5_3A5_3A5_3A5_3A5,
    0x3A5_3A5_3A5_3A5_3A5_3A5_3A5_3A5_3A5_3A5_3A5_3A5,
    0x3A5_3A5_3A5_3A5_3A5_3A5_3A5_3A5_3A5_3A5_3A5_3A5,
    0x3A5_3A5_3A5_3A5_3A5_3A5_3A5_3A5_3A5_3A5_3A5_3A5,
    0x3A5_3A5_3A5_3A5_3A5_3A5_3A5_3A5_3A5_3A5_3A5_3A5,
    0x3A5_3A5_3A5_3A5_3A5_3A5_3A5_3A5_3A5_3A5_3A5_3A5,
    0x3A5_3A5_3A5_3A5_3A5_3A5_3A5_3A5_3A5_3A5_3A5_3A5,
    0x3A5_3A5_3A5_3A5_3A5_3A5_3A5_3A5_3A5_3A5_3A5_3A5,
    0x3A5_3A5_3A5_3A5_3A5_3A5_3A5_3A5_3A5_3A5_3A5_3A5,
    0x3A5_3A5_3A5_3A5_3A5_3A5_3A5_3A5_3A5_3A5_3A5_3A5,
    0x3A5_3A5_3A5_3A5_3A5_3A5_3A5_3A5_3A5_3A5_3A5_3A5,
    0x3A5_3A5_3A5_3A5_3A5_3A5_3A5_3A5_3A5_3A5_3A5_3A5,
    0x3A5_3A5_3A5_3A5_3A5_3A5_3A5_3A5_3A5_3A5_3A5_3A5,
    0x3A5_3A5_3A5_3A5_3A5_3A5_3A5_3A5_3A5_3A5_3A5_3A5,
    0x3A5_3A5_3A5_3A5_3A5_3A5_3A5_3A5_3A5_3A5_3A5_3A5,
    0x3A5_3A5_3A5_3A5_3A5_3A5_3A5_3A5_3A5_3A5_3A5_3A5,
    0x3A5_3A5_3A5_3A5_3A5_3A5_3A5_3A5_3A5_3A5_3A5_3A5,
    0x3A5_3A5_3A5_3A5_3A5_3A5_3A5_3A5_3A5_3A5_3A5_3A5,
    0x3A5_3A5_3A5_3A5_3A5_3A5_3A5_3A5_3A5_3A5_3A5_3A5,
    0x3A5_3A5_3A5_3A5_3A5_3A5_3A5_3A5_3A5_3A5_3A5_3A5,
    0x3A5_3A5_3A5_3A5_3A5_3A5_3A5_3A5_3A5_3A5_3A5_3A5,
    0x3A5_3A5_3A5_3A5_3A7_3A7_3A7_3A7_3A7_3A7_3A7_3A7,
    0x3A7_3A7_3A7_3A7_3A7_3A7_3A7_3A7_3A7_3A7_3A7_3A7,
    0x3A7_3A7_3A7_3A7_3A7_3A7_3A7_3A7_3A7_3A7_3A7_3A7,
    0x3A7_3A7_3A7_3A7_3A7_3A7_3A7_3A7_3A7_3A7_3A7_3A7,
    0x3A7_3A7_3A7_3A7_3A7_3A7_3A7_3A7_3A7_3A7_3A7_3A7,
    0x3A7_3A7_3A7_3A7_3A7_3A7_3A7_3A7_3A7_3A7_3A7_3A7,
    0x3A7_3A7_3A7_3A7_3A7_3A7_3A7_3A7_3A7_3A7_3A7_3A7,
    0x3A7_3A7_3A7_3A7_3A7_3A7_3A7_3A7_3A7_3A7_3A7_3A7,
    0x3A7_3A7_3A7_3A7_3A7_3A7_3A7_3A7_3A7_3A7_3A7_3A7,
    0x3A7_3A7_3A7_3A7_3A7_3A7_3A7_3A7_3A7_3A7_3A7_3A7,
    0x3A7_3A7_3A7_3A7_3A7_3A7_3A7_3A7_3A7_3A7_3A7_3A7,
    0x3A7_3A7_3A7_3A7_3A7_3A7_3A7_3A7_3A7_3A7_3A7_3A7,
    0x3A7_3A7_3A7_3A7_3A7_3A7_3A7_3A7_3A7_3A7_3A7_3A7,
    0x3A7_3A7_3A7_3A7_3A7_3A7_3A7_3A7_3A7_3A7_3A7_3A7,
    0x3A7_3A7_3A7_3A7_3A7_3A7_3A7_3A7_3A7_3A7_3A7_3A7,
    0x3A7_3A7_3A7_3A7_3A7_3A7_3A7_3A7_3A7_3A7_3A7_3A7,
    0x3A7_3A7_3A7_3A7_3A7_3A7_3A7_3A7_3A7_3A7_3A7_3A7,
    0x3A7_3A7_3A7_3A7_3A7_3A7_3A7_3A7_3A7_3A7_3A7_3A7,
    0x3A7_3A7_3A7_3A7_3A7_3A7_3A7_3A7_3A7_3A7_3A7_3A7,
    0x3A7_3A7_3A7_3A7_3A7_3A7_3A7_3A7_3A7_3A7_3A7_3A7,
    0x3A7_3A7_3A7_3A7_3A7_3A7_3A7_3A7_3A7_3A7_3A7_3A7,
    0x3A7_3A7_3A7_3A7_3A7_3A7_3A7_3A7_3A7_3A7_3A7_3A7,
    0x3A7_3A7_3A7_3A7_3A7_3A7_3A7_3A7_3A7_3A7_3A7_3A7,
    0x3A7_3A7_3A7_3A7_3A7_3A7_3A7_3A7_3A7_3A7_3A7_3A7,
    0x3A7_3A7_3A7_3A7_3A7_3A7_3A7_3A7_3A7_3A7_3A7_3A7,
    0x3A7_3A7_3A7_3A7_3A7_3A7_3A7_3A7_3A7_3A7_3A7_3A7,
    0x3A7_3A7_3A7_3A7_3A7_3A7_3A7_3A7_3A7_3A7_3A7_3A7,
    0x3A7_3A7_3A7_3A7_3A7_3A7_3A7_3A7_3A7_3A7_3A7_3A7,
    0x3A7_3A7_3A7_3A7_3A7_3A7_3A7_3A7_3A7_3A7_3A7_3A7,
    0x3A7_3A7_3A7_3A7_3A7_3A7_3A7_3A7_3A7_3A7_3A7_3A7,
    0x3A7_3A7_3A7_3A7_3A7_3A7_3A7_3A7_3A7_3A7_3A7_3A7,
    0x3A7_3A7_3A7_3AA_3AA_3AA_3AA_3AA_3AA_3AA_3AA_3AA,
    0x3AA_3AA_3AA_3AA_3AA_3AA_3AA_3AA_3AA_3AA_3AA_3AA,
    0x3AA_3AA_3AA_3AA_3AA_3AA_3AA_3AA_3AA_3AA_3AA_3AA,
    0x3AA_3AA_3AA_3AA_3AA_3AA_3AA_3AA_3AA_3AA_3AA_3AA,
    0x3AA_3AA_3AA_3AA_3AA_3AA_3AA_3AA_3AA_3AA_3AA_3AA,
    0x3AA_3AA_3AA_3AA_3AA_3AA_3AA_3AA_3AA_3AA_3AA_3AA,
    0x3AA_3AA_3AA_3AA_3AA_3AA_3AA_3AA_3AA_3AA_3AA_3AA,
    0x3AA_3AA_3AA_3AA_3AA_3AA_3AA_3AA_3AA_3AA_3AA_3AA,
    0x3AA_3AA_3AA_3AA_3AA_3AA_3AA_3AA_3AA_3AA_3AA_3AA,
    0x3AA_3AA_3AA_3AA_3AA_3AA_3AA_3AA_3AA_3AA_3AA_3AA,
    0x3AA_3AA_3AA_3AA_3AA_3AA_3AA_3AA_3AA_3AA_3AA_3AA,
    0x3AA_3AA_3AA_3AA_3AA_3AA_3AA_3AA_3AA_3AA_3AA_3AA,
    0x3AA_3AA_3AA_3AA_3AA_3AA_3AA_3AA_3AA_3AA_3AA_3AA,
    0x3AA_3AA_3AA_3AA_3AA_3AA_3AA_3AA_3AA_3AA_3AA_3AA,
    0x3AA_3AA_3AA_3AA_3AA_3AA_3AA_3AA_3AA_3AA_3AA_3AA,
    0x3AA_3AA_3AA_3AA_3AA_3AA_3AA_3AA_3AA_3AA_3AA_3AA,
    0x3AA_3AA_3AA_3AA_3AA_3AA_3AA_3AA_3AA_3AA_3AA_3AA,
    0x3AA_3AA_3AA_3AA_3AA_3AA_3AA_3AA_3AA_3AA_3AA_3AA,
    0x3AA_3AA_3AA_3AA_3AA_3AA_3AA_3AA_3AA_3AA_3AA_3AA,
    0x3AA_3AA_3AA_3AA_3AA_3AA_3AA_3AA_3AA_3AA_3AA_3AA,
    0x3AA_3AA_3AA_3AA_3AA_3AA_3AA_3AA_3AA_3AA_3AA_3AA,
    0x3AA_3AA_3AA_3AA_3AA_3AA_3AA_3AB_3AC_3AC_3AC_3AC,
    0x3AC_3AC_3AC_3AC_3AC_3AC_3AC_3AC_3AC_3AC_3AC_3AC,
    0x3AC_3AC_3AC_3AC_3AC_3AC_3AC_3AC_3AC_3AC_3AC_3AC,
    0x3AC_3AC_3AC_3AC_3AC_3AC_3AC_3AC_3AC_3AC_3AC_3AC,
    0x3AC_3AC_3AC_3AC_3AC_3AC_3AC_3AC_3AC_3AC_3AC_3AC,
    0x3AC_3AC_3AC_3AC_3AC_3AC_3AC_3AC_3AC_3AC_3AC_3AC,
    0x3AC_3AC_3AC_3AC_3AC_3AC_3AC_3AC_3AC_3AC_3AC_3AC,
    0x3AC_3AC_3AC_3AC_3AC_3AC_3AC_3AC_3AC_3AC_3AC_3AC,
    0x3AC_3AC_3AC_3AC_3AC_3AC_3AC_3AC_3AC_3AC_3AC_3AC,
    0x3AC_3AC_3AC_3AC_3AC_3AC_3AC_3AC_3AC_3AC_3AC_3AC,
    0x3AC_3AC_3AC_3AC_3AC_3AC_3AC_3AC_3AC_3AC_3AC_3AC,
    0x3AC_3AD_3AD_3AD_3AD_3AD_3AD_3AD_3AD_3AD_3AD_3AD,
    0x3AD_3AD_3AD_3AD_3AD_3AD_3AD_3AD_3AD_3AD_3AD_3AD,
    0x3AD_3AD_3AD_3AD_3AD_3AD_3AD_3AD_3AD_3AD_3AD_3AD,
    0x3AD_3AD_3AD_3AD_3AD_3AD_3AD_3AD_3AD_3AD_3AD_3AD,
    0x3AD_3AD_3AD_3AD_3AD_3AD_3AD_3AD_3AD_3AD_3AD_3AD,
    0x3AD_3AD_3AD_3AD_3AD_3AD_3AD_3AD_3AD_3AD_3AD_3AD,
    0x3AD_3AD_3AD_3AD_3AD_3AD_3AD_3AD_3AD_3AD_3AD_3AD,
    0x3AD_3AD_3AD_3AD_3AD_3AD_3AD_3AD_3AD_3AD_3AD_3AD,
    0x3AD_3AD_3AD_3AD_3AD_3AD_3AD_3AD_3AD_3AD_3AD_3AD,
    0x3AD_3AD_3AD_3AD_3AD_3AD_3AD_3AD_3AD_3AD_3AD_3AD,
    0x3AD_3AD_3AD_3AD_3AD_3AD_3AD_3AD_3AD_3AD_3AD_3AD,
    0x3AD_3AD_3AD_3AD_3AD_3AD_3AD_3AD_3AD_3AD_3AD_3AD,
    0x3AD_3AD_3AD_3AD_3AD_3AD_3AD_3AD_3AD_3AD_3AD_3AD,
    0x3AD_3AD_3AD_3AD_3AD_3AD_3AD_3AD_3AD_3AD_3AD_3AD,
    0x3AD_3AD_3AD_3AD_3AD_3AD_3AD_3AD_3AD_3AD_3AD_3AD,
    0x3AD_3AD_3AD_3AD_3AD_3AD_3AD_3AD_3AD_3AD_3AD_3AD,
    0x3AD_3AD_3AD_3AD_3AD_3AD_3AD_3AD_3AD_3AD_3AD_3AD]

/-- The second code of a pair and its composite. The pairs of one first code stand in the order of their
second codes. -/
def compositionPairs : Packed 48 941 := .ofRows 6 [
  0x00033800226E_000338002260_00033800226F_0003000000C0_0003010000C1,
  0x0003020000C2_0003030000C3_000304000100_000306000102_000307000226_0003080000C4,
  0x000309001EA2_00030A0000C5_00030C0001CD_00030F000200_000311000202_000323001EA0,
  0x000325001E00_000328000104_000307001E02_000323001E04_000331001E06_000301000106,
  0x000302000108_00030700010A_00030C00010C_0003270000C7_000307001E0A_00030C00010E,
  0x000323001E0C_000327001E10_00032D001E12_000331001E0E_0003000000C8_0003010000C9,
  0x0003020000CA_000303001EBC_000304000112_000306000114_000307000116_0003080000CB,
  0x000309001EBA_00030C00011A_00030F000204_000311000206_000323001EB8_000327000228,
  0x000328000118_00032D001E18_000330001E1A_000307001E1E_0003010001F4_00030200011C,
  0x000304001E20_00030600011E_000307000120_00030C0001E6_000327000122_000302000124,
  0x000307001E22_000308001E26_00030C00021E_000323001E24_000327001E28_00032E001E2A,
  0x0003000000CC_0003010000CD_0003020000CE_000303000128_00030400012A_00030600012C,
  0x000307000130_0003080000CF_000309001EC8_00030C0001CF_00030F000208_00031100020A,
  0x000323001ECA_00032800012E_000330001E2C_000302000134_000301001E30_00030C0001E8,
  0x000323001E32_000327000136_000331001E34_000301000139_00030C00013D_000323001E36,
  0x00032700013B_00032D001E3C_000331001E3A_000301001E3E_000307001E40_000323001E42,
  0x0003000001F8_000301000143_0003030000D1_000307001E44_00030C000147_000323001E46,
  0x000327000145_00032D001E4A_000331001E48_0003000000D2_0003010000D3_0003020000D4,
  0x0003030000D5_00030400014C_00030600014E_00030700022E_0003080000D6_000309001ECE,
  0x00030B000150_00030C0001D1_00030F00020C_00031100020E_00031B0001A0_000323001ECC,
  0x0003280001EA_000301001E54_000307001E56_000301000154_000307001E58_00030C000158,
  0x00030F000210_000311000212_000323001E5A_000327000156_000331001E5E_00030100015A,
  0x00030200015C_000307001E60_00030C000160_000323001E62_000326000218_00032700015E,
  0x000307001E6A_00030C000164_000323001E6C_00032600021A_000327000162_00032D001E70,
  0x000331001E6E_0003000000D9_0003010000DA_0003020000DB_000303000168_00030400016A,
  0x00030600016C_0003080000DC_000309001EE6_00030A00016E_00030B000170_00030C0001D3,
  0x00030F000214_000311000216_00031B0001AF_000323001EE4_000324001E72_000328000172,
  0x00032D001E76_000330001E74_000303001E7C_000323001E7E_000300001E80_000301001E82,
  0x000302000174_000307001E86_000308001E84_000323001E88_000307001E8A_000308001E8C,
  0x000300001EF2_0003010000DD_000302000176_000303001EF8_000304000232_000307001E8E,
  0x000308000178_000309001EF6_000323001EF4_000301000179_000302001E90_00030700017B,
  0x00030C00017D_000323001E92_000331001E94_0003000000E0_0003010000E1_0003020000E2,
  0x0003030000E3_000304000101_000306000103_000307000227_0003080000E4_000309001EA3,
  0x00030A0000E5_00030C0001CE_00030F000201_000311000203_000323001EA1_000325001E01,
  0x000328000105_000307001E03_000323001E05_000331001E07_000301000107_000302000109,
  0x00030700010B_00030C00010D_0003270000E7_000307001E0B_00030C00010F_000323001E0D,
  0x000327001E11_00032D001E13_000331001E0F_0003000000E8_0003010000E9_0003020000EA,
  0x000303001EBD_000304000113_000306000115_000307000117_0003080000EB_000309001EBB,
  0x00030C00011B_00030F000205_000311000207_000323001EB9_000327000229_000328000119,
  0x00032D001E19_000330001E1B_000307001E1F_0003010001F5_00030200011D_000304001E21,
  0x00030600011F_000307000121_00030C0001E7_000327000123_000302000125_000307001E23,
  0x000308001E27_00030C00021F_000323001E25_000327001E29_00032E001E2B_000331001E96,
  0x0003000000EC_0003010000ED_0003020000EE_000303000129_00030400012B_00030600012D,
  0x0003080000EF_000309001EC9_00030C0001D0_00030F000209_00031100020B_000323001ECB,
  0x00032800012F_000330001E2D_000302000135_00030C0001F0_000301001E31_00030C0001E9,
  0x000323001E33_000327000137_000331001E35_00030100013A_00030C00013E_000323001E37,
  0x00032700013C_00032D001E3D_000331001E3B_000301001E3F_000307001E41_000323001E43,
  0x0003000001F9_000301000144_0003030000F1_000307001E45_00030C000148_000323001E47,
  0x000327000146_00032D001E4B_000331001E49_0003000000F2_0003010000F3_0003020000F4,
  0x0003030000F5_00030400014D_00030600014F_00030700022F_0003080000F6_000309001ECF,
  0x00030B000151_00030C0001D2_00030F00020D_00031100020F_00031B0001A1_000323001ECD,
  0x0003280001EB_000301001E55_000307001E57_000301000155_000307001E59_00030C000159,
  0x00030F000211_000311000213_000323001E5B_000327000157_000331001E5F_00030100015B,
  0x00030200015D_000307001E61_00030C000161_000323001E63_000326000219_00032700015F,
  0x000307001E6B_000308001E97_00030C000165_000323001E6D_00032600021B_000327000163,
  0x00032D001E71_000331001E6F_0003000000F9_0003010000FA_0003020000FB_000303000169,
  0x00030400016B_00030600016D_0003080000FC_000309001EE7_00030A00016F_00030B000171,
  0x00030C0001D4_00030F000215_000311000217_00031B0001B0_000323001EE5_000324001E73,
  0x000328000173_00032D001E77_000330001E75_000303001E7D_000323001E7F_000300001E81,
  0x000301001E83_000302000175_000307001E87_000308001E85_00030A001E98_000323001E89,
  0x000307001E8B_000308001E8D_000300001EF3_0003010000FD_000302000177_000303001EF9,
  0x000304000233_000307001E8F_0003080000FF_000309001EF7_00030A001E99_000323001EF5,
  0x00030100017A_000302001E91_00030700017C_00030C00017E_000323001E93_000331001E95,
  0x000300001FED_000301000385_000342001FC1_000300001EA6_000301001EA4_000303001EAA,
  0x000309001EA8_0003040001DE_0003010001FA_0003010001FC_0003040001E2_000301001E08,
  0x000300001EC0_000301001EBE_000303001EC4_000309001EC2_000301001E2E_000300001ED2,
  0x000301001ED0_000303001ED6_000309001ED4_000301001E4C_00030400022C_000308001E4E,
  0x00030400022A_0003010001FE_0003000001DB_0003010001D7_0003040001D5_00030C0001D9,
  0x000300001EA7_000301001EA5_000303001EAB_000309001EA9_0003040001DF_0003010001FB,
  0x0003010001FD_0003040001E3_000301001E09_000300001EC1_000301001EBF_000303001EC5,
  0x000309001EC3_000301001E2F_000300001ED3_000301001ED1_000303001ED7_000309001ED5,
  0x000301001E4D_00030400022D_000308001E4F_00030400022B_0003010001FF_0003000001DC,
  0x0003010001D8_0003040001D6_00030C0001DA_000300001EB0_000301001EAE_000303001EB4,
  0x000309001EB2_000300001EB1_000301001EAF_000303001EB5_000309001EB3_000300001E14,
  0x000301001E16_000300001E15_000301001E17_000300001E50_000301001E52_000300001E51,
  0x000301001E53_000307001E64_000307001E65_000307001E66_000307001E67_000301001E78,
  0x000301001E79_000308001E7A_000308001E7B_000307001E9B_000300001EDC_000301001EDA,
  0x000303001EE0_000309001EDE_000323001EE2_000300001EDD_000301001EDB_000303001EE1,
  0x000309001EDF_000323001EE3_000300001EEA_000301001EE8_000303001EEE_000309001EEC,
  0x000323001EF0_000300001EEB_000301001EE9_000303001EEF_000309001EED_000323001EF1,
  0x00030C0001EE_0003040001EC_0003040001ED_0003040001E0_0003040001E1_000306001E1C,
  0x000306001E1D_000304000230_000304000231_00030C0001EF_000300001FBA_000301000386,
  0x000304001FB9_000306001FB8_000313001F08_000314001F09_000345001FBC_000300001FC8,
  0x000301000388_000313001F18_000314001F19_000300001FCA_000301000389_000313001F28,
  0x000314001F29_000345001FCC_000300001FDA_00030100038A_000304001FD9_000306001FD8,
  0x0003080003AA_000313001F38_000314001F39_000300001FF8_00030100038C_000313001F48,
  0x000314001F49_000314001FEC_000300001FEA_00030100038E_000304001FE9_000306001FE8,
  0x0003080003AB_000314001F59_000300001FFA_00030100038F_000313001F68_000314001F69,
  0x000345001FFC_000345001FB4_000345001FC4_000300001F70_0003010003AC_000304001FB1,
  0x000306001FB0_000313001F00_000314001F01_000342001FB6_000345001FB3_000300001F72,
  0x0003010003AD_000313001F10_000314001F11_000300001F74_0003010003AE_000313001F20,
  0x000314001F21_000342001FC6_000345001FC3_000300001F76_0003010003AF_000304001FD1,
  0x000306001FD0_0003080003CA_000313001F30_000314001F31_000342001FD6_000300001F78,
  0x0003010003CC_000313001F40_000314001F41_000313001FE4_000314001FE5_000300001F7A,
  0x0003010003CD_000304001FE1_000306001FE0_0003080003CB_000313001F50_000314001F51,
  0x000342001FE6_000300001F7C_0003010003CE_000313001F60_000314001F61_000342001FF6,
  0x000345001FF3_000300001FD2_000301000390_000342001FD7_000300001FE2_0003010003B0,
  0x000342001FE7_000345001FF4_0003010003D3_0003080003D4_000308000407_0003060004D0,
  0x0003080004D2_000301000403_000300000400_0003060004D6_000308000401_0003060004C1,
  0x0003080004DC_0003080004DE_00030000040D_0003040004E2_000306000419_0003080004E4,
  0x00030100040C_0003080004E6_0003040004EE_00030600040E_0003080004F0_00030B0004F2,
  0x0003080004F4_0003080004F8_0003080004EC_0003060004D1_0003080004D3_000301000453,
  0x000300000450_0003060004D7_000308000451_0003060004C2_0003080004DD_0003080004DF,
  0x00030000045D_0003040004E3_000306000439_0003080004E5_00030100045C_0003080004E7,
  0x0003040004EF_00030600045E_0003080004F1_00030B0004F3_0003080004F5_0003080004F9,
  0x0003080004ED_000308000457_00030F000476_00030F000477_0003080004DA_0003080004DB,
  0x0003080004EA_0003080004EB_000653000622_000654000623_000655000625_000654000624,
  0x000654000626_0006540006C2_0006540006D3_0006540006C0_00093C000929_00093C000931,
  0x00093C000934_0009BE0009CB_0009D70009CC_000B3E000B4B_000B56000B48_000B57000B4C,
  0x000BD7000B94_000BBE000BCA_000BD7000BCC_000BBE000BCB_000C56000C48_000CD5000CC0,
  0x000CC2000CCA_000CD5000CC7_000CD6000CC8_000CD5000CCB_000D3E000D4A_000D57000D4C,
  0x000D3E000D4B_000DCA000DDA_000DCF000DDC_000DDF000DDE_000DCA000DDD_00102E001026,
  0x001B35001B06_001B35001B08_001B35001B0A_001B35001B0C_001B35001B0E_001B35001B12,
  0x001B35001B3B_001B35001B3D_001B35001B40_001B35001B41_001B35001B43_000304001E38,
  0x000304001E39_000304001E5C_000304001E5D_000307001E68_000307001E69_000302001EAC,
  0x000306001EB6_000302001EAD_000306001EB7_000302001EC6_000302001EC7_000302001ED8,
  0x000302001ED9_000300001F02_000301001F04_000342001F06_000345001F80_000300001F03,
  0x000301001F05_000342001F07_000345001F81_000345001F82_000345001F83_000345001F84,
  0x000345001F85_000345001F86_000345001F87_000300001F0A_000301001F0C_000342001F0E,
  0x000345001F88_000300001F0B_000301001F0D_000342001F0F_000345001F89_000345001F8A,
  0x000345001F8B_000345001F8C_000345001F8D_000345001F8E_000345001F8F_000300001F12,
  0x000301001F14_000300001F13_000301001F15_000300001F1A_000301001F1C_000300001F1B,
  0x000301001F1D_000300001F22_000301001F24_000342001F26_000345001F90_000300001F23,
  0x000301001F25_000342001F27_000345001F91_000345001F92_000345001F93_000345001F94,
  0x000345001F95_000345001F96_000345001F97_000300001F2A_000301001F2C_000342001F2E,
  0x000345001F98_000300001F2B_000301001F2D_000342001F2F_000345001F99_000345001F9A,
  0x000345001F9B_000345001F9C_000345001F9D_000345001F9E_000345001F9F_000300001F32,
  0x000301001F34_000342001F36_000300001F33_000301001F35_000342001F37_000300001F3A,
  0x000301001F3C_000342001F3E_000300001F3B_000301001F3D_000342001F3F_000300001F42,
  0x000301001F44_000300001F43_000301001F45_000300001F4A_000301001F4C_000300001F4B,
  0x000301001F4D_000300001F52_000301001F54_000342001F56_000300001F53_000301001F55,
  0x000342001F57_000300001F5B_000301001F5D_000342001F5F_000300001F62_000301001F64,
  0x000342001F66_000345001FA0_000300001F63_000301001F65_000342001F67_000345001FA1,
  0x000345001FA2_000345001FA3_000345001FA4_000345001FA5_000345001FA6_000345001FA7,
  0x000300001F6A_000301001F6C_000342001F6E_000345001FA8_000300001F6B_000301001F6D,
  0x000342001F6F_000345001FA9_000345001FAA_000345001FAB_000345001FAC_000345001FAD,
  0x000345001FAE_000345001FAF_000345001FB2_000345001FC2_000345001FF2_000345001FB7,
  0x000300001FCD_000301001FCE_000342001FCF_000345001FC7_000345001FF7_000300001FDD,
  0x000301001FDE_000342001FDF_00033800219A_00033800219B_0003380021AE_0003380021CD,
  0x0003380021CF_0003380021CE_000338002204_000338002209_00033800220C_000338002224,
  0x000338002226_000338002241_000338002244_000338002247_000338002249_00033800226D,
  0x000338002262_000338002270_000338002271_000338002274_000338002275_000338002278,
  0x000338002279_000338002280_000338002281_0003380022E0_0003380022E1_000338002284,
  0x000338002285_000338002288_000338002289_0003380022E2_0003380022E3_0003380022AC,
  0x0003380022AD_0003380022AE_0003380022AF_0003380022EA_0003380022EB_0003380022EC,
  0x0003380022ED_003099003094_00309900304C_00309900304E_003099003050_003099003052,
  0x003099003054_003099003056_003099003058_00309900305A_00309900305C_00309900305E,
  0x003099003060_003099003062_003099003065_003099003067_003099003069_003099003070,
  0x00309A003071_003099003073_00309A003074_003099003076_00309A003077_003099003079,
  0x00309A00307A_00309900307C_00309A00307D_00309900309E_0030990030F4_0030990030AC,
  0x0030990030AE_0030990030B0_0030990030B2_0030990030B4_0030990030B6_0030990030B8,
  0x0030990030BA_0030990030BC_0030990030BE_0030990030C0_0030990030C2_0030990030C5,
  0x0030990030C7_0030990030C9_0030990030D0_00309A0030D1_0030990030D3_00309A0030D4,
  0x0030990030D6_00309A0030D7_0030990030D9_00309A0030DA_0030990030DC_00309A0030DD,
  0x0030990030F7_0030990030F8_0030990030F9_0030990030FA_0030990030FE_0110BA01109A,
  0x0110BA01109C_0110BA0110AB_01112701112E_01112701112F_01133E01134B_01135701134C,
  0x0114B00114BC_0114BA0114BB_0114BD0114BE_0115AF0115BA_0115AF0115BB_011930011938]

end UnicodeText.Data
