import UnicodeText.Table.Block

namespace UnicodeText.Data

/-- Positions in `baseCodes`; 0 where nothing changes. -/
def baseCodeIndex : BlockTable 12 256 where
  span := 4352
  index := .ofRows 32 [
    0x0001020304050605050708090505050A0B050505050505050505050C05050D0E,
    0x050F100505050505050511050505050512050505050505050505050505050505,
    0x0505050505050505050505050505050505050505050505050505050505050505,
    0x0505050505050505050505050505050505050505050505050505050505050505,
    0x0505050505050505050505050505050505050505050505050505050505050505,
    0x0505050505050505050505050505050505050505050505050505050505050505,
    0x0505050505050505050505050505050505050505050505050505050505050505,
    0x0505050505050505050505050505050505050505050505050505051305050505,
    0x0505050505050505050505050505050514050505050505050505050505050505,
    0x0505050505050505050505050505050505050505050505050505050505050505,
    0x0505050505050505050505050505050505050505050505050505050505050505,
    0x0505050505050505050505050505050505050505050505050505050505050505,
    0x0505050505050505050505050505050505050505050505050505050505050505,
    0x0505050505050505050505050505050505050505050505050505050505050505,
    0x0505050505050505050505050505050505150505050505050505050505050505,
    0x0505050505050505050505050505050505050505050505050505050505050505,
    0x0505050505050505050505050505050505050505050505050505050505050505,
    0x0505050505050505050505050505050505050505050505050505050505050505,
    0x0505050505050505050505050505050505050505050505050505050505050505,
    0x0505050505050505050505050505050505050505050505050505050505050505,
    0x0505050505050505050505050505050505050505050505050505050505050505,
    0x0505050505050505050505050505050505050505050505050505050505050505,
    0x0505050505050505050505050505050505050505050505050505050505050505,
    0x0505050505050505050505050505050505050505050505050505050505050505,
    0x0505050505050505050505050505050505050505050505050505050505050505,
    0x0505050505050505050505050505050505050505050505050505050505050505,
    0x0505050505050505050505050505050505050505050505050505050505050505,
    0x0505050505050505050505050505050505050505050505050505050505050505,
    0x0505050505050505050505050505050505050505050505050505050505050505,
    0x0505050505050505050505050505050505050505050505050505050505050505,
    0x0505050505050505050505050505050505050505050505050505050505050505,
    0x0505050505050505050505050505050505050505050505050505050505050505,
    0x0505050505050505050505050505050505050505050505050505050505050505,
    0x0505050505050505050505050505050505050505050505050505050505050505,
    0x0505050505050505050505050505050505050505050505050505050505050505,
    0x0505050505050505050505050505050505050505050505050505050505050505,
    0x0505050505050505050505050505050505050505050505050505050505050505,
    0x0505050505050505050505050505050505050505050505050505050505050505,
    0x0505050505050505050505050505050505050505050505050505050505050505,
    0x0505050505050505050505050505050505050505050505050505050505050505,
    0x0505050505050505050505050505050505050505050505050505050505050505,
    0x0505050505050505050505050505050505050505050505050505050505050505,
    0x0505050505050505050505050505050505050505050505050505050505050505,
    0x0505050505050505050505050505050505050505050505050505050505050505,
    0x0505050505050505050505050505050505050505050505050505050505050505,
    0x0505050505050505050505050505050505050505050505050505050505050505,
    0x0505050505050505050505050505050505050505050505050505050505050505,
    0x0505050505050505050505050505050505050505050505050505050505050505,
    0x0505050505050505050505050505050505050505050505050505050505050505,
    0x0505050505050505050505050505050505050505050505050505050505050505,
    0x0505050505050505050505050505050505050505050505050505050505050505,
    0x0505050505050505050505050505050505050505050505050505050505050505,
    0x0505050505050505050505050505050505050505050505050505050505050505,
    0x0505050505050505050505050505050505050505050505050505050505050505,
    0x0505050505050505050505050505050505050505050505050505050505050505,
    0x0505050505050505050505050505050505050505050505050505050505050505,
    0x0505050505050505050505050505050505050505050505050505050505050505,
    0x0505050505050505050505050505050505050505050505050505050505050505,
    0x0505050505050505050505050505050505050505050505050505050505050505,
    0x0505050505050505050505050505050505050505050505050505050505050505,
    0x0505050505050505050505050505050505050505050505050505050505050505,
    0x0505050505050505050505050505050505050505050505050505050505050505,
    0x0505050505050505050505050505050505050505050505050505050505050505,
    0x0505050505050505050505050505050505050505050505050505050505050505,
    0x0505050505050505050505050505050505050505050505050505050505050505,
    0x0505050505050505050505050505050505050505050505050505050505050505,
    0x0505050505050505050505050505050505050505050505050505050505050505,
    0x0505050505050505050505050505050505050505050505050505050505050505,
    0x0505050505050505050505050505050505050505050505050505050505050505,
    0x0505050505050505050505050505050505050505050505050505050505050505,
    0x0505050505050505050505050505050505050505050505050505050505050505,
    0x0505050505050505050505050505050505050505050505050505050505050505,
    0x0505050505050505050505050505050505050505050505050505050505050505,
    0x0505050505050505050505050505050505050505050505050505050505050505,
    0x0505050505050505050505050505050505050505050505050505050505050505,
    0x0505050505050505050505050505050505050505050505050505050505050505,
    0x0505050505050505050505050505050505050505050505050505050505050505,
    0x0505050505050505050505050505050505050505050505050505050505050505,
    0x0505050505050505050505050505050505050505050505050505050505050505,
    0x0505050505050505050505050505050505050505050505050505050505050505,
    0x0505050505050505050505050505050505050505050505050505050505050505,
    0x0505050505050505050505050505050505050505050505050505050505050505,
    0x0505050505050505050505050505050505050505050505050505050505050505,
    0x0505050505050505050505050505050505050505050505050505050505050505,
    0x0505050505050505050505050505050505050505050505050505050505050505,
    0x0505050505050505050505050505050505050505050505050505050505050505,
    0x0505050505050505050505050505050505050505050505050505050505050505,
    0x0505050505050505050505050505050505050505050505050505050505050505,
    0x0505050505050505050505050505050505050505050505050505050505050505,
    0x0505050505050505050505050505050505050505050505050505050505050505,
    0x0505050505050505050505050505050505050505050505050505050505050505,
    0x0505050505050505050505050505050505050505050505050505050505050505,
    0x0505050505050505050505050505050505050505050505050505050505050505,
    0x0505050505050505050505050505050505050505050505050505050505050505,
    0x0505050505050505050505050505050505050505050505050505050505050505,
    0x0505050505050505050505050505050505050505050505050505050505050505,
    0x0505050505050505050505050505050505050505050505050505050505050505,
    0x0505050505050505050505050505050505050505050505050505050505050505,
    0x0505050505050505050505050505050505050505050505050505050505050505,
    0x0505050505050505050505050505050505050505050505050505050505050505,
    0x0505050505050505050505050505050505050505050505050505050505050505,
    0x0505050505050505050505050505050505050505050505050505050505050505,
    0x0505050505050505050505050505050505050505050505050505050505050505,
    0x0505050505050505050505050505050505050505050505050505050505050505,
    0x0505050505050505050505050505050505050505050505050505050505050505,
    0x0505050505050505050505050505050505050505050505050505050505050505,
    0x0505050505050505050505050505050505050505050505050505050505050505,
    0x0505050505050505050505050505050505050505050505050505050505050505,
    0x0505050505050505050505050505050505050505050505050505050505050505,
    0x0505050505050505050505050505050505050505050505050505050505050505,
    0x0505050505050505050505050505050505050505050505050505050505050505,
    0x0505050505050505050505050505050505050505050505050505050505050505,
    0x0505050505050505050505050505050505050505050505050505050505050505,
    0x0505050505050505050505050505050505050505050505050505050505050505,
    0x0505050505050505050505050505050505050505050505050505050505050505,
    0x0505050505050505050505050505050505050505050505050505050505050505,
    0x0505050505050505050505050505050505050505050505050505050505050505,
    0x0505050505050505050505050505050505050505050505050505050505050505,
    0x0505050505050505050505050505050505050505050505050505050505050505,
    0x0505050505050505050505050505050505050505050505050505050505050505,
    0x0505050505050505050505050505050505050505050505050505050505050505,
    0x0505050505050505050505050505050505050505050505050505050505050505,
    0x0505050505050505050505050505050505050505050505050505050505050505,
    0x0505050505050505050505050505050505050505050505050505050505050505,
    0x0505050505050505050505050505050505050505050505050505050505050505,
    0x0505050505050505050505050505050505050505050505050505050505050505,
    0x0505050505050505050505050505050505050505050505050505050505050505,
    0x0505050505050505050505050505050505050505050505050505050505050505,
    0x0505050505050505050505050505050505050505050505050505050505050505,
    0x0505050505050505050505050505050505050505050505050505050505050505,
    0x0505050505050505050505050505050505050505050505050505050505050505,
    0x0505050505050505050505050505050505050505050505050505050505050505,
    0x0505050505050505050505050505050505050505050505050505050505050505,
    0x0505050505050505050505050505050505050505050505050505050505050505,
    0x0505050505050505050505050505050505050505050505050505050505050505,
    0x0505050505050505050505050505050505050505050505050505050505050505]
  count := 22
  cells := .ofRows 16 [
    0x000_000_000_000_000_000_000_000_000_000_000_000_000_000_000_000,
    0x000_000_000_000_000_000_000_000_000_000_000_000_000_000_000_000,
    0x000_000_000_000_000_000_000_000_000_000_000_000_000_000_000_000,
    0x000_000_000_000_000_000_000_000_000_000_000_000_000_000_000_000,
    0x000_000_000_000_000_000_000_000_000_000_000_000_000_000_000_000,
    0x000_000_000_000_000_000_000_000_000_000_000_000_000_000_000_000,
    0x000_000_000_000_000_000_000_000_000_000_000_000_000_000_000_000,
    0x000_000_000_000_000_000_000_000_000_000_000_000_000_000_000_000,
    0x000_000_000_000_000_000_000_000_000_000_000_000_000_000_000_000,
    0x000_000_000_000_000_000_000_000_000_000_000_000_000_000_000_000,
    0x000_000_000_000_000_000_000_000_000_000_000_000_000_000_000_000,
    0x000_000_000_000_000_000_000_000_000_000_000_000_000_000_000_000,
    0x001_002_003_004_005_006_000_007_008_009_00A_00B_00C_00D_00E_00F,
    0x000_010_011_012_013_014_015_000_000_016_017_018_019_01A_000_000,
    0x01B_01C_01D_01E_01F_020_000_021_022_023_024_025_026_027_028_029,
    0x000_02A_02B_02C_02D_02E_02F_000_000_030_031_032_033_034_000_035,
    0x036_037_038_039_03A_03B_03C_03D_03E_03F_040_041_042_043_044_045,
    0x000_000_046_047_048_049_04A_04B_04C_04D_04E_04F_050_051_052_053,
    0x054_055_056_057_058_059_000_000_05A_05B_05C_05D_05E_05F_060_061,
    0x062_000_000_000_063_064_065_066_000_067_068_069_06A_06B_06C_000,
    0x000_000_000_06D_06E_06F_070_071_072_000_000_000_073_074_075_076,
    0x077_078_000_000_079_07A_07B_07C_07D_07E_07F_080_081_082_083_084,
    0x085_086_087_088_089_08A_000_000_08B_08C_08D_08E_08F_090_091_092,
    0x093_094_095_096_097_098_099_09A_09B_09C_09D_09E_09F_0A0_0A1_000,
    0x000_000_000_000_000_000_000_000_000_000_000_000_000_000_000_000,
    0x000_000_000_000_000_000_000_000_000_000_000_000_000_000_000_000,
    0x0A2_0A3_000_000_000_000_000_000_000_000_000_000_000_000_000_0A4,
    0x0A5_000_000_000_000_000_000_000_000_000_000_000_000_000_000_000,
    0x000_000_000_000_000_000_000_000_000_000_000_000_000_0A6_0A7_0A8,
    0x0A9_0AA_0AB_0AC_0AD_0AE_0AF_0B0_0B1_0B2_0B3_0B4_0B5_000_0B6_0B7,
    0x0B8_0B9_0BA_0BB_000_000_0BC_0BD_0BE_0BF_0C0_0C1_0C2_0C3_0C4_0C5,
    0x0C6_000_000_000_0C7_0C8_000_000_0C9_0CA_0CB_0CC_0CD_0CE_0CF_0D0,
    0x0D1_0D2_0D3_0D4_0D5_0D6_0D7_0D8_0D9_0DA_0DB_0DC_0DD_0DE_0DF_0E0,
    0x0E1_0E2_0E3_0E4_0E5_0E6_0E7_0E8_0E9_0EA_0EB_0EC_000_000_0ED_0EE,
    0x000_000_000_000_000_000_0EF_0F0_0F1_0F2_0F3_0F4_0F5_0F6_0F7_0F8,
    0x0F9_0FA_0FB_0FC_000_000_000_000_000_000_000_000_000_000_000_000,
    0x000_000_000_000_000_000_000_000_000_000_000_000_000_000_000_000,
    0x000_000_000_000_000_000_000_000_000_000_000_000_000_000_000_000,
    0x000_000_000_000_000_000_000_000_000_000_000_000_000_000_000_000,
    0x000_000_000_000_000_000_000_000_000_000_000_000_000_000_000_000,
    0x000_000_000_000_000_000_000_000_000_000_000_000_000_000_000_000,
    0x000_000_000_000_000_000_000_000_000_000_000_000_000_000_000_000,
    0x000_000_000_000_000_000_000_000_000_000_000_000_000_000_000_000,
    0x000_000_000_000_000_000_000_000_000_000_000_000_000_000_000_000,
    0x000_000_000_000_000_000_000_000_000_000_000_000_000_000_000_000,
    0x000_000_000_000_000_000_000_000_000_000_000_000_000_000_000_000,
    0x000_000_000_000_000_000_000_000_000_000_000_000_000_000_000_000,
    0x000_000_000_000_000_000_000_000_000_000_000_000_000_000_000_000,
    0x000_000_000_000_000_000_000_000_000_000_000_000_000_000_000_000,
    0x000_000_000_000_000_000_000_000_000_000_000_000_000_000_000_000,
    0x000_000_000_000_000_000_000_000_000_000_000_000_000_000_000_000,
    0x000_000_000_000_000_000_000_000_000_000_000_000_000_000_000_000,
    0x000_000_000_000_000_000_000_000_000_000_000_000_000_000_000_000,
    0x000_000_000_000_000_000_000_000_000_000_000_000_000_000_000_000,
    0x000_000_000_000_000_000_000_000_000_000_000_000_000_000_000_000,
    0x000_000_000_000_000_000_000_000_000_000_000_000_000_000_000_000,
    0x000_000_000_000_000_0FD_0FE_000_0FF_100_101_000_102_000_103_104,
    0x105_000_000_000_000_000_000_000_000_000_000_000_000_000_000_000,
    0x000_000_000_000_000_000_000_000_000_000_106_107_108_109_10A_10B,
    0x10C_000_000_000_000_000_000_000_000_000_000_000_000_000_000_000,
    0x000_000_000_000_000_000_000_000_000_000_10D_10E_10F_110_111_000,
    0x000_000_000_112_113_000_000_000_000_000_000_000_000_000_000_000,
    0x000_000_000_000_000_000_000_000_000_000_000_000_000_000_000_000,
    0x000_000_000_000_000_000_000_000_000_000_000_000_000_000_000_000,
    0x114_115_000_116_000_000_000_117_000_000_000_000_118_119_11A_000,
    0x000_000_000_000_000_000_000_000_000_11B_000_000_000_000_000_000,
    0x000_000_000_000_000_000_000_000_000_000_000_000_000_000_000_000,
    0x000_000_000_000_000_000_000_000_000_11C_000_000_000_000_000_000,
    0x000_000_000_000_000_000_000_000_000_000_000_000_000_000_000_000,
    0x11D_11E_000_11F_000_000_000_120_000_000_000_000_121_122_123_000,
    0x000_000_000_000_000_000_000_000_000_000_000_000_000_000_000_000,
    0x000_000_000_000_000_000_124_125_000_000_000_000_000_000_000_000,
    0x000_000_000_000_000_000_000_000_000_000_000_000_000_000_000_000,
    0x000_000_000_000_000_000_000_000_000_000_000_000_000_000_000_000,
    0x000_000_000_000_000_000_000_000_000_000_000_000_000_000_000_000,
    0x000_000_000_000_000_000_000_000_000_000_000_000_000_000_000_000,
    0x000_126_127_000_000_000_000_000_000_000_000_000_000_000_000_000,
    0x128_129_12A_12B_000_000_12C_12D_000_000_12E_12F_130_131_132_133,
    0x000_000_134_135_136_137_138_139_000_000_13A_13B_13C_13D_13E_13F,
    0x140_141_142_143_144_145_000_000_146_147_000_000_000_000_000_000,
    0x000_000_000_000_000_000_000_000_000_000_000_000_000_000_000_000,
    0x000_000_000_000_000_000_000_000_000_000_000_000_000_000_000_000,
    0x000_000_000_000_000_000_000_000_000_000_000_000_000_000_000_000,
    0x000_000_000_000_000_000_000_000_000_000_000_000_000_000_000_000,
    0x000_000_000_000_000_000_000_000_000_000_000_000_000_000_000_000,
    0x000_000_000_000_000_000_000_000_000_000_000_000_000_000_000_000,
    0x000_000_000_000_000_000_000_000_000_000_000_000_000_000_000_000,
    0x000_000_000_000_000_000_000_000_000_000_000_000_000_000_000_000,
    0x000_000_000_000_000_000_000_000_000_000_000_000_000_000_000_000,
    0x000_000_000_000_000_000_000_000_000_000_000_000_000_000_000_000,
    0x000_000_000_000_000_000_000_000_000_000_000_000_000_000_000_000,
    0x000_000_000_000_000_000_000_000_000_000_000_000_000_000_000_000,
    0x000_000_000_000_000_000_000_000_000_000_000_000_000_000_000_000,
    0x000_000_000_000_000_000_000_000_000_000_000_000_000_000_000_000,
    0x000_000_000_000_000_000_000_000_000_000_000_000_000_000_000_000,
    0x000_000_000_000_000_000_000_000_000_000_000_000_000_000_000_000,
    0x000_000_000_000_000_000_000_000_000_000_000_000_000_000_000_000,
    0x000_000_000_000_000_000_000_000_000_000_000_000_000_000_000_000,
    0x000_000_148_149_14A_14B_14C_000_000_000_000_000_000_000_000_000,
    0x000_000_000_000_000_000_000_000_000_000_000_000_000_000_000_000,
    0x000_000_000_000_000_000_000_000_000_000_000_000_000_000_000_000,
    0x000_000_000_000_000_000_000_000_000_000_000_000_000_000_000_000,
    0x000_000_000_000_000_000_000_000_000_000_000_000_000_000_000_000,
    0x000_000_000_000_000_000_000_000_000_000_000_000_000_000_000_000,
    0x000_000_000_000_000_000_000_000_000_000_000_000_000_000_000_000,
    0x000_000_000_000_000_000_000_000_000_000_000_000_000_000_000_000,
    0x000_000_000_000_000_000_000_000_000_000_000_000_000_000_000_000,
    0x000_000_000_000_000_000_000_000_000_000_000_000_000_000_000_000,
    0x14D_000_14E_000_000_000_000_000_000_000_000_000_000_000_000_000,
    0x000_000_000_14F_000_000_000_000_000_000_000_000_000_000_000_000,
    0x000_000_000_000_000_000_000_000_000_000_000_000_000_000_000_000,
    0x000_000_000_000_000_000_000_000_000_000_000_000_000_000_000_000,
    0x000_000_000_000_000_000_000_000_000_000_000_000_000_000_000_000,
    0x000_000_000_000_000_000_000_000_000_000_000_000_000_000_000_000,
    0x000_000_000_000_000_000_000_000_000_150_000_000_000_000_000_000,
    0x000_151_000_000_152_000_000_000_000_000_000_000_000_000_000_000,
    0x000_000_000_000_000_000_000_000_000_000_000_000_000_000_000_000,
    0x000_000_000_000_000_000_000_000_153_154_155_156_157_158_159_15A,
    0x000_000_000_000_000_000_000_000_000_000_000_000_000_000_000_000,
    0x000_000_000_000_000_000_000_000_000_000_000_000_000_000_000_000,
    0x000_000_000_000_000_000_000_000_000_000_000_000_000_000_000_000,
    0x000_000_000_000_000_000_000_000_000_000_000_000_000_000_000_000,
    0x000_000_000_000_000_000_000_000_000_000_000_000_000_000_000_000,
    0x000_000_000_000_000_000_000_000_000_000_000_000_000_000_000_000,
    0x000_000_000_000_000_000_000_000_000_000_000_000_000_000_000_000,
    0x000_000_000_000_000_000_000_000_000_000_000_000_15B_15C_000_15D,
    0x000_000_000_000_000_000_000_000_000_000_000_000_000_000_000_000,
    0x000_000_000_000_000_000_000_000_000_000_000_000_000_000_000_000,
    0x000_000_000_000_000_000_000_000_000_000_000_000_000_000_000_000,
    0x000_000_000_000_000_000_000_000_000_000_000_000_000_000_000_000,
    0x000_000_000_000_000_000_000_000_000_000_000_000_000_000_000_000,
    0x000_000_000_15E_000_000_15F_000_000_000_000_000_000_000_000_000,
    0x000_000_000_000_000_000_000_000_000_000_000_000_000_000_000_000,
    0x000_000_000_000_000_000_000_000_000_160_161_162_000_000_163_000,
    0x000_000_000_000_000_000_000_000_000_000_000_000_000_000_000_000,
    0x000_000_000_000_000_000_000_000_000_000_000_000_000_000_000_000,
    0x000_000_000_000_000_000_000_000_000_000_000_000_000_000_000_000,
    0x000_000_000_000_000_000_000_000_000_000_000_000_000_000_000_000,
    0x000_000_000_000_000_000_000_000_000_000_000_000_000_000_000_000,
    0x000_000_000_000_000_000_000_000_000_000_000_000_000_000_000_000,
    0x000_000_000_000_000_000_000_000_000_000_000_000_000_000_000_000,
    0x000_000_000_000_000_000_000_000_000_000_000_000_000_000_000_000,
    0x000_000_000_000_000_000_000_000_000_000_000_000_000_000_000_000,
    0x000_000_000_000_000_000_000_000_000_000_000_000_000_000_000_000,
    0x000_000_000_000_000_000_000_000_000_000_000_000_000_000_000_000,
    0x000_000_000_000_000_000_000_000_000_000_000_000_000_000_000_000,
    0x000_000_000_000_000_000_000_000_000_000_000_000_000_000_000_000,
    0x000_000_000_000_000_000_000_000_000_000_000_000_000_000_000_000,
    0x000_000_000_000_000_000_000_000_000_000_000_000_000_000_000_000,
    0x000_000_000_000_000_000_000_000_000_000_000_000_164_165_000_000,
    0x000_000_000_000_000_000_000_000_000_000_000_000_000_000_000_000,
    0x000_000_000_000_000_000_000_000_000_000_000_000_000_000_000_000,
    0x000_000_000_000_000_000_000_000_000_000_000_000_000_000_000_000,
    0x000_000_000_000_166_000_000_000_000_000_000_000_000_000_000_000,
    0x000_000_000_000_000_000_000_000_000_000_000_000_000_000_000_000,
    0x000_000_000_000_000_000_000_000_000_000_000_000_000_000_000_000,
    0x000_000_000_000_000_000_000_000_000_000_000_000_000_000_000_000,
    0x000_000_000_000_000_000_000_000_000_000_000_000_000_000_000_000,
    0x000_000_000_000_000_000_000_000_000_000_000_000_000_000_000_000,
    0x000_000_000_000_000_000_000_000_000_000_000_000_000_000_000_000,
    0x000_000_000_000_000_000_000_000_000_000_000_000_000_000_000_000,
    0x000_000_000_000_000_000_000_000_000_000_000_000_000_000_000_000,
    0x000_000_000_000_000_000_000_000_000_000_000_000_000_000_000_000,
    0x000_000_000_000_000_000_000_000_000_000_000_000_000_000_000_000,
    0x000_000_000_167_000_000_000_000_000_000_000_000_000_168_000_000,
    0x000_000_169_000_000_000_000_16A_000_000_000_000_16B_000_000_000,
    0x000_000_000_000_000_000_000_000_000_16C_000_000_000_000_000_000,
    0x000_000_000_000_000_000_000_000_000_000_000_000_000_000_000_000,
    0x000_000_000_000_000_000_000_000_000_000_000_000_000_000_000_000,
    0x000_000_000_000_000_000_000_000_000_000_000_000_000_000_000_000,
    0x000_000_000_000_000_000_000_000_000_000_000_000_000_000_000_000,
    0x000_000_000_000_000_000_000_000_000_000_000_000_000_000_000_000,
    0x000_000_000_000_000_000_000_000_000_000_000_000_000_000_000_000,
    0x000_000_000_000_000_000_000_000_000_000_000_000_000_000_000_000,
    0x000_000_000_000_000_000_000_000_000_000_000_000_000_000_000_000,
    0x000_000_000_000_000_000_000_000_000_000_000_000_000_000_000_000,
    0x000_000_000_000_000_000_000_000_000_000_000_000_000_000_000_000,
    0x000_000_000_000_000_000_000_000_000_000_000_000_000_000_000_000,
    0x000_000_000_000_000_000_16D_000_000_000_000_000_000_000_000_000,
    0x000_000_000_000_000_000_000_000_000_000_000_000_000_000_000_000,
    0x000_000_000_000_000_000_000_000_000_000_000_000_000_000_000_000,
    0x000_000_000_000_000_000_000_000_000_000_000_000_000_000_000_000,
    0x000_000_000_000_000_000_000_000_000_000_000_000_000_000_000_000,
    0x000_000_000_000_000_000_000_000_000_000_000_000_000_000_000_000,
    0x000_000_000_000_000_000_000_000_000_000_000_000_000_000_000_000,
    0x000_000_000_000_000_000_000_000_000_000_000_000_000_000_000_000,
    0x000_000_000_000_000_000_000_000_000_000_000_000_000_000_000_000,
    0x000_000_000_000_000_000_000_000_000_000_000_000_000_000_000_000,
    0x000_000_000_000_000_000_000_000_000_000_000_000_000_000_000_000,
    0x000_000_000_000_000_000_000_000_000_000_000_000_000_000_000_000,
    0x000_000_000_000_000_000_000_000_000_000_000_000_000_000_000_000,
    0x000_000_000_000_000_000_000_000_000_000_000_000_000_000_000_000,
    0x000_000_000_000_000_000_16E_000_16F_000_170_000_171_000_172_000,
    0x000_000_173_000_000_000_000_000_000_000_000_000_000_000_000_000,
    0x000_000_000_000_000_000_000_000_000_000_000_000_000_000_000_000,
    0x000_000_000_000_000_000_000_000_000_000_000_000_000_000_000_000,
    0x000_000_000_000_000_000_000_000_000_000_000_000_000_000_000_000,
    0x000_000_000_000_000_000_000_000_000_000_000_000_000_000_000_000,
    0x000_000_000_000_000_000_000_000_000_000_000_000_000_000_000_000,
    0x000_000_000_000_000_000_000_000_000_000_000_000_000_000_000_000,
    0x000_000_000_000_000_000_000_000_000_000_000_000_000_000_000_000,
    0x000_000_000_000_000_000_000_000_000_000_000_000_000_000_000_000,
    0x000_000_000_000_000_000_000_000_000_000_000_000_000_000_000_000,
    0x000_000_000_000_000_000_000_000_000_000_000_000_000_000_000_000,
    0x000_000_000_000_000_000_000_000_000_000_000_000_000_000_000_000,
    0x000_000_000_000_000_000_000_000_000_000_000_000_000_000_000_000,
    0x000_000_000_000_000_000_000_000_000_000_000_000_000_000_000_000,
    0x000_000_000_000_000_000_000_000_000_000_000_000_000_000_000_000,
    0x174_175_176_177_178_179_17A_17B_17C_17D_17E_17F_180_181_182_183,
    0x184_185_186_187_188_189_18A_18B_18C_18D_18E_18F_190_191_192_193,
    0x194_195_196_197_198_199_19A_19B_19C_19D_19E_19F_1A0_1A1_1A2_1A3,
    0x1A4_1A5_1A6_1A7_1A8_1A9_1AA_1AB_1AC_1AD_1AE_1AF_1B0_1B1_1B2_1B3,
    0x1B4_1B5_1B6_1B7_1B8_1B9_1BA_1BB_1BC_1BD_1BE_1BF_1C0_1C1_1C2_1C3,
    0x1C4_1C5_1C6_1C7_1C8_1C9_1CA_1CB_1CC_1CD_1CE_1CF_1D0_1D1_1D2_1D3,
    0x1D4_1D5_1D6_1D7_1D8_1D9_1DA_1DB_1DC_1DD_1DE_1DF_1E0_1E1_1E2_1E3,
    0x1E4_1E5_1E6_1E7_1E8_1E9_1EA_1EB_1EC_1ED_1EE_1EF_1F0_1F1_1F2_1F3,
    0x1F4_1F5_1F6_1F7_1F8_1F9_1FA_1FB_1FC_1FD_1FE_1FF_200_201_202_203,
    0x204_205_206_207_208_209_20A_20B_20C_20D_000_20E_000_000_000_000,
    0x20F_210_211_212_213_214_215_216_217_218_219_21A_21B_21C_21D_21E,
    0x21F_220_221_222_223_224_225_226_227_228_229_22A_22B_22C_22D_22E,
    0x22F_230_231_232_233_234_235_236_237_238_239_23A_23B_23C_23D_23E,
    0x23F_240_241_242_243_244_245_246_247_248_249_24A_24B_24C_24D_24E,
    0x24F_250_251_252_253_254_255_256_257_258_259_25A_25B_25C_25D_25E,
    0x25F_260_261_262_263_264_265_266_267_268_000_000_000_000_000_000,
    0x269_26A_26B_26C_26D_26E_26F_270_271_272_273_274_275_276_277_278,
    0x279_27A_27B_27C_27D_27E_000_000_27F_280_281_282_283_284_000_000,
    0x285_286_287_288_289_28A_28B_28C_28D_28E_28F_290_291_292_293_294,
    0x295_296_297_298_299_29A_29B_29C_29D_29E_29F_2A0_2A1_2A2_2A3_2A4,
    0x2A5_2A6_2A7_2A8_2A9_2AA_000_000_2AB_2AC_2AD_2AE_2AF_2B0_000_000,
    0x2B1_2B2_2B3_2B4_2B5_2B6_2B7_2B8_000_2B9_000_2BA_000_2BB_000_2BC,
    0x2BD_2BE_2BF_2C0_2C1_2C2_2C3_2C4_2C5_2C6_2C7_2C8_2C9_2CA_2CB_2CC,
    0x2CD_2CE_2CF_2D0_2D1_2D2_2D3_2D4_2D5_2D6_2D7_2D8_2D9_2DA_000_000,
    0x2DB_2DC_2DD_2DE_2DF_2E0_2E1_2E2_2E3_2E4_2E5_2E6_2E7_2E8_2E9_2EA,
    0x2EB_2EC_2ED_2EE_2EF_2F0_2F1_2F2_2F3_2F4_2F5_2F6_2F7_2F8_2F9_2FA,
    0x2FB_2FC_2FD_2FE_2FF_300_301_302_303_304_305_306_307_308_309_30A,
    0x30B_30C_30D_30E_30F_000_310_311_312_313_314_315_316_000_000_000,
    0x000_317_318_319_31A_000_31B_31C_31D_31E_31F_320_321_322_323_324,
    0x325_326_327_328_000_000_329_32A_32B_32C_32D_32E_000_32F_330_331,
    0x332_333_334_335_336_337_338_339_33A_33B_33C_33D_33E_33F_340_000,
    0x000_000_341_342_343_000_344_345_346_347_348_349_34A_000_000_000,
    0x000_000_000_000_000_000_000_000_000_000_000_000_000_000_000_000,
    0x000_000_000_000_000_000_000_000_000_000_000_000_000_000_000_000,
    0x000_000_000_000_000_000_000_000_000_000_000_34B_000_000_000_000,
    0x000_000_000_000_000_000_000_000_000_000_000_000_000_000_000_000,
    0x000_000_000_000_000_000_000_000_000_000_000_000_000_000_000_000,
    0x000_000_000_000_000_000_000_000_000_000_000_000_000_000_000_000,
    0x000_000_000_000_000_000_000_000_000_000_000_000_000_000_000_000,
    0x000_000_000_000_000_000_000_000_000_000_000_000_000_000_000_000,
    0x000_000_000_000_000_000_000_000_000_000_000_000_000_000_000_000,
    0x000_000_000_000_000_000_000_000_000_000_34C_34D_000_000_000_000,
    0x000_000_000_000_000_000_000_000_000_000_000_000_000_000_34E_000,
    0x000_000_000_000_000_000_000_000_000_000_000_000_000_000_000_000,
    0x000_000_000_000_000_000_000_000_000_000_000_000_000_34F_350_351,
    0x000_000_000_000_000_000_000_000_000_000_000_000_000_000_000_000,
    0x000_000_000_000_000_000_000_000_000_000_000_000_000_000_000_000,
    0x000_000_000_000_000_000_000_000_000_000_000_000_000_000_000_000,
    0x000_000_000_000_352_000_000_000_000_353_000_000_354_000_000_000,
    0x000_000_000_000_000_000_000_000_000_000_000_000_000_000_000_000,
    0x000_000_000_000_355_000_356_000_000_000_000_000_000_000_000_000,
    0x000_000_000_000_000_000_000_000_000_000_000_000_000_000_000_000,
    0x000_357_000_000_358_000_000_359_000_35A_000_000_000_000_000_000,
    0x000_000_000_000_000_000_000_000_000_000_000_000_000_000_000_000,
    0x35B_000_35C_000_000_000_000_000_000_000_000_000_000_35D_35E_35F,
    0x360_361_000_000_362_363_000_000_364_365_000_000_000_000_000_000,
    0x366_367_000_000_368_369_000_000_36A_36B_000_000_000_000_000_000,
    0x000_000_000_000_000_000_000_000_000_000_000_000_000_000_000_000,
    0x000_000_000_000_000_000_000_000_000_000_000_000_36C_36D_36E_36F,
    0x000_000_000_000_000_000_000_000_000_000_000_000_000_000_000_000,
    0x000_000_000_000_000_000_000_000_000_000_000_000_000_000_000_000,
    0x000_000_000_000_000_000_000_000_000_000_000_000_000_000_000_000,
    0x370_371_372_373_000_000_000_000_000_000_374_375_376_377_000_000,
    0x000_000_000_000_000_000_000_000_000_000_000_000_000_000_000_000,
    0x000_000_000_000_000_000_000_000_000_000_000_000_000_000_000_000,
    0x000_000_000_000_000_000_000_000_000_000_000_000_000_000_000_000,
    0x000_000_000_000_000_000_000_000_000_000_000_000_000_000_000_000,
    0x000_000_000_000_000_000_000_000_000_000_000_000_000_000_000_000,
    0x000_000_000_000_000_000_000_000_000_000_000_000_000_000_000_000,
    0x000_000_000_000_000_000_000_000_000_000_000_000_000_000_000_000,
    0x000_000_000_000_000_000_000_000_000_000_000_000_000_000_000_000,
    0x000_000_000_000_000_000_000_000_000_000_000_000_000_000_000_000,
    0x000_000_000_000_000_000_000_000_000_000_000_000_000_000_000_000,
    0x000_000_000_000_000_000_000_000_000_000_000_000_000_000_000_000,
    0x000_000_000_000_000_000_000_000_000_000_000_000_000_000_000_000,
    0x000_000_000_000_000_000_000_000_000_000_000_000_000_000_000_000,
    0x000_000_000_000_000_000_000_000_000_000_000_000_000_000_000_000,
    0x000_000_000_000_000_000_000_000_000_000_000_000_378_000_000_000,
    0x000_000_000_000_000_000_000_000_000_000_000_000_000_000_000_000,
    0x000_000_000_000_000_000_000_000_000_000_000_000_000_000_000_000,
    0x000_000_000_000_000_000_000_000_000_000_000_000_000_000_000_000,
    0x000_000_000_000_000_000_000_000_000_000_000_000_000_000_000_000,
    0x000_000_000_000_000_000_000_000_000_000_000_000_000_000_000_000,
    0x000_000_000_000_000_000_000_000_000_000_000_000_000_000_000_000,
    0x000_000_000_000_000_000_000_000_000_000_000_000_379_000_37A_000,
    0x37B_000_37C_000_37D_000_37E_000_37F_000_380_000_381_000_382_000,
    0x383_000_384_000_000_385_000_386_000_387_000_000_000_000_000_000,
    0x388_389_000_38A_38B_000_38C_38D_000_38E_38F_000_390_391_000_000,
    0x000_000_000_000_000_000_000_000_000_000_000_000_000_000_000_000,
    0x000_000_000_000_392_000_000_000_000_000_000_000_000_000_393_000,
    0x000_000_000_000_000_000_000_000_000_000_000_000_394_000_395_000,
    0x396_000_397_000_398_000_399_000_39A_000_39B_000_39C_000_39D_000,
    0x39E_000_39F_000_000_3A0_000_3A1_000_3A2_000_000_000_000_000_000,
    0x3A3_3A4_000_3A5_3A6_000_3A7_3A8_000_3A9_3AA_000_3AB_3AC_000_000,
    0x000_000_000_000_000_000_000_000_000_000_000_000_000_000_000_000,
    0x000_000_000_000_3AD_000_000_3AE_3AF_3B0_3B1_000_000_000_3B2_000,
    0x000_000_000_000_000_000_000_000_000_000_000_000_000_000_000_000,
    0x000_000_000_000_000_000_000_000_000_000_000_000_000_3B3_000_3B4,
    0x000_000_000_000_000_000_000_000_000_000_3B5_3B6_3B7_3B8_3B9_3BA,
    0x3BB_3BC_3BD_3BE_3BF_3C0_3C1_000_3C2_3C3_3C4_3C5_3C6_000_3C7_000,
    0x3C8_3C9_000_3CA_3CB_000_3CC_3CD_3CE_3CF_3D0_3D1_3D2_3D3_3D4_000,
    0x000_000_000_000_000_000_000_000_000_000_000_000_000_000_000_000,
    0x000_000_000_000_000_000_000_000_000_000_000_000_000_000_000_000,
    0x000_000_000_000_000_000_000_000_000_000_000_000_000_000_000_000,
    0x000_000_000_000_000_000_000_000_000_000_000_000_000_000_000_000,
    0x000_000_000_000_000_000_000_000_000_000_000_000_000_000_000_000,
    0x000_000_000_000_000_000_000_000_000_000_000_000_000_000_000_000,
    0x000_000_000_000_000_000_000_000_000_000_000_000_000_000_000_000,
    0x000_000_000_000_000_000_000_000_000_000_000_000_000_000_000_000,
    0x000_000_000_000_000_000_000_000_000_000_000_000_000_000_000_000,
    0x000_000_000_000_000_000_000_000_000_000_000_000_000_000_000_000,
    0x000_000_000_000_000_000_000_000_000_000_000_000_000_000_000_000,
    0x000_000_000_000_000_000_000_000_000_000_000_000_000_000_000_000,
    0x000_000_000_000_000_000_000_000_000_000_000_000_000_000_000_000,
    0x000_000_000_000_000_000_000_000_000_000_000_000_000_000_000_000,
    0x000_000_000_000_000_000_000_000_000_000_000_000_000_000_000_000,
    0x000_000_000_000_000_000_000_000_000_000_000_000_000_000_000_000,
    0x000_000_000_000_000_000_000_000_000_000_000_000_000_000_000_000,
    0x000_000_000_000_000_000_000_000_000_000_000_000_000_000_000_000,
    0x000_000_000_000_000_000_000_000_000_000_000_000_000_000_000_000,
    0x000_000_000_000_000_000_000_000_000_000_000_000_000_000_000_000,
    0x000_000_000_000_000_000_000_000_000_000_3D5_000_3D6_000_000_000,
    0x000_000_000_000_000_000_000_000_000_000_000_3D7_000_000_000_000,
    0x000_000_000_000_000_000_000_000_000_000_000_000_000_000_000_000,
    0x000_000_000_000_000_000_000_000_000_000_000_000_000_000_000_000,
    0x000_000_000_000_000_000_000_000_000_000_000_000_000_000_000_000,
    0x000_000_000_000_000_000_000_000_000_000_000_000_000_000_000_000,
    0x000_000_000_000_000_000_000_000_000_000_000_000_000_000_000_000,
    0x000_000_000_000_000_000_000_000_000_000_000_000_000_000_000_000,
    0x000_000_000_000_000_000_000_000_000_000_000_000_000_000_000_000,
    0x000_000_000_000_000_000_000_000_000_000_000_000_000_000_000_000,
    0x000_000_000_000_000_000_000_000_000_000_000_000_000_000_000_000,
    0x000_000_000_000_000_000_000_000_000_000_000_000_000_000_000_000,
    0x000_000_000_000_000_000_000_000_000_000_000_000_000_000_3D8_3D9,
    0x3DA_3DB_3DC_3DD_3DE_000_000_000_000_000_000_000_000_000_000_000,
    0x000_000_000_000_000_000_000_000_000_000_000_000_000_000_000_000,
    0x000_000_000_000_000_000_000_000_000_000_000_000_000_000_000_000,
    0x000_000_000_000_000_000_000_000_000_000_000_000_000_000_000_000,
    0x000_000_000_000_000_000_000_000_000_000_000_000_000_000_000_000,
    0x000_000_000_000_000_000_000_000_000_000_000_3DF_3E0_3E1_3E2_3E3,
    0x3E4_000_000_000_000_000_000_000_000_000_000_000_000_000_000_000,
    0x000_000_000_000_000_000_000_000_000_000_000_000_000_000_000_000,
    0x000_000_000_000_000_000_000_000_000_000_000_000_000_000_000_000,
    0x000_000_000_000_000_000_000_000_000_000_000_000_000_000_000_000]

/-- The code points without marks. The first is never used. -/
def baseCodes : Packed 24 997 := .ofRows 12 [
  0x000000,
  0x000041_000041_000041_000041_000041_000041_000043_000045_000045_000045_000045_000049,
  0x000049_000049_000049_00004E_00004F_00004F_00004F_00004F_00004F_000055_000055_000055,
  0x000055_000059_000061_000061_000061_000061_000061_000061_000063_000065_000065_000065,
  0x000065_000069_000069_000069_000069_00006E_00006F_00006F_00006F_00006F_00006F_000075,
  0x000075_000075_000075_000079_000079_000041_000061_000041_000061_000041_000061_000043,
  0x000063_000043_000063_000043_000063_000043_000063_000044_000064_000045_000065_000045,
  0x000065_000045_000065_000045_000065_000045_000065_000047_000067_000047_000067_000047,
  0x000067_000047_000067_000048_000068_000049_000069_000049_000069_000049_000069_000049,
  0x000069_000049_00004A_00006A_00004B_00006B_00004C_00006C_00004C_00006C_00004C_00006C,
  0x00004E_00006E_00004E_00006E_00004E_00006E_00004F_00006F_00004F_00006F_00004F_00006F,
  0x000052_000072_000052_000072_000052_000072_000053_000073_000053_000073_000053_000073,
  0x000053_000073_000054_000074_000054_000074_000055_000075_000055_000075_000055_000075,
  0x000055_000075_000055_000075_000055_000075_000057_000077_000059_000079_000059_00005A,
  0x00007A_00005A_00007A_00005A_00007A_00004F_00006F_000055_000075_000041_000061_000049,
  0x000069_00004F_00006F_000055_000075_000055_000075_000055_000075_000055_000075_000055,
  0x000075_000041_000061_000041_000061_0000C6_0000E6_000047_000067_00004B_00006B_00004F,
  0x00006F_00004F_00006F_0001B7_000292_00006A_000047_000067_00004E_00006E_000041_000061,
  0x0000C6_0000E6_0000D8_0000F8_000041_000061_000041_000061_000045_000065_000045_000065,
  0x000049_000069_000049_000069_00004F_00006F_00004F_00006F_000052_000072_000052_000072,
  0x000055_000075_000055_000075_000053_000073_000054_000074_000048_000068_000041_000061,
  0x000045_000065_00004F_00006F_00004F_00006F_00004F_00006F_00004F_00006F_000059_000079,
  0x0000A8_000391_000395_000397_000399_00039F_0003A5_0003A9_0003B9_000399_0003A5_0003B1,
  0x0003B5_0003B7_0003B9_0003C5_0003B9_0003C5_0003BF_0003C5_0003C9_0003D2_0003D2_000415,
  0x000415_000413_000406_00041A_000418_000423_000418_000438_000435_000435_000433_000456,
  0x00043A_000438_000443_000474_000475_000416_000436_000410_000430_000410_000430_000415,
  0x000435_0004D8_0004D9_000416_000436_000417_000437_000418_000438_000418_000438_00041E,
  0x00043E_0004E8_0004E9_00042D_00044D_000423_000443_000423_000443_000423_000443_000427,
  0x000447_00042B_00044B_000627_000627_000648_000627_00064A_0006D5_0006C1_0006D2_000928,
  0x000930_000933_000915_000916_000917_00091C_000921_000922_00092B_00092F_0009A1_0009A2,
  0x0009AF_000A32_000A38_000A16_000A17_000A1C_000A2B_000B21_000B22_000B92_000F42_000F4C,
  0x000F51_000F56_000F5B_000F40_001025_001B05_001B07_001B09_001B0B_001B0D_001B11_000041,
  0x000061_000042_000062_000042_000062_000042_000062_000043_000063_000044_000064_000044,
  0x000064_000044_000064_000044_000064_000044_000064_000045_000065_000045_000065_000045,
  0x000065_000045_000065_000045_000065_000046_000066_000047_000067_000048_000068_000048,
  0x000068_000048_000068_000048_000068_000048_000068_000049_000069_000049_000069_00004B,
  0x00006B_00004B_00006B_00004B_00006B_00004C_00006C_00004C_00006C_00004C_00006C_00004C,
  0x00006C_00004D_00006D_00004D_00006D_00004D_00006D_00004E_00006E_00004E_00006E_00004E,
  0x00006E_00004E_00006E_00004F_00006F_00004F_00006F_00004F_00006F_00004F_00006F_000050,
  0x000070_000050_000070_000052_000072_000052_000072_000052_000072_000052_000072_000053,
  0x000073_000053_000073_000053_000073_000053_000073_000053_000073_000054_000074_000054,
  0x000074_000054_000074_000054_000074_000055_000075_000055_000075_000055_000075_000055,
  0x000075_000055_000075_000056_000076_000056_000076_000057_000077_000057_000077_000057,
  0x000077_000057_000077_000057_000077_000058_000078_000058_000078_000059_000079_00005A,
  0x00007A_00005A_00007A_00005A_00007A_000068_000074_000077_000079_00017F_000041_000061,
  0x000041_000061_000041_000061_000041_000061_000041_000061_000041_000061_000041_000061,
  0x000041_000061_000041_000061_000041_000061_000041_000061_000041_000061_000045_000065,
  0x000045_000065_000045_000065_000045_000065_000045_000065_000045_000065_000045_000065,
  0x000045_000065_000049_000069_000049_000069_00004F_00006F_00004F_00006F_00004F_00006F,
  0x00004F_00006F_00004F_00006F_00004F_00006F_00004F_00006F_00004F_00006F_00004F_00006F,
  0x00004F_00006F_00004F_00006F_00004F_00006F_000055_000075_000055_000075_000055_000075,
  0x000055_000075_000055_000075_000055_000075_000055_000075_000059_000079_000059_000079,
  0x000059_000079_000059_000079_0003B1_0003B1_0003B1_0003B1_0003B1_0003B1_0003B1_0003B1,
  0x000391_000391_000391_000391_000391_000391_000391_000391_0003B5_0003B5_0003B5_0003B5,
  0x0003B5_0003B5_000395_000395_000395_000395_000395_000395_0003B7_0003B7_0003B7_0003B7,
  0x0003B7_0003B7_0003B7_0003B7_000397_000397_000397_000397_000397_000397_000397_000397,
  0x0003B9_0003B9_0003B9_0003B9_0003B9_0003B9_0003B9_0003B9_000399_000399_000399_000399,
  0x000399_000399_000399_000399_0003BF_0003BF_0003BF_0003BF_0003BF_0003BF_00039F_00039F,
  0x00039F_00039F_00039F_00039F_0003C5_0003C5_0003C5_0003C5_0003C5_0003C5_0003C5_0003C5,
  0x0003A5_0003A5_0003A5_0003A5_0003C9_0003C9_0003C9_0003C9_0003C9_0003C9_0003C9_0003C9,
  0x0003A9_0003A9_0003A9_0003A9_0003A9_0003A9_0003A9_0003A9_0003B1_0003B1_0003B5_0003B5,
  0x0003B7_0003B7_0003B9_0003B9_0003BF_0003BF_0003C5_0003C5_0003C9_0003C9_0003B1_0003B1,
  0x0003B1_0003B1_0003B1_0003B1_0003B1_0003B1_000391_000391_000391_000391_000391_000391,
  0x000391_000391_0003B7_0003B7_0003B7_0003B7_0003B7_0003B7_0003B7_0003B7_000397_000397,
  0x000397_000397_000397_000397_000397_000397_0003C9_0003C9_0003C9_0003C9_0003C9_0003C9,
  0x0003C9_0003C9_0003A9_0003A9_0003A9_0003A9_0003A9_0003A9_0003A9_0003A9_0003B1_0003B1,
  0x0003B1_0003B1_0003B1_0003B1_0003B1_000391_000391_000391_000391_000391_0000A8_0003B7,
  0x0003B7_0003B7_0003B7_0003B7_000395_000395_000397_000397_000397_001FBF_001FBF_001FBF,
  0x0003B9_0003B9_0003B9_0003B9_0003B9_0003B9_000399_000399_000399_000399_001FFE_001FFE,
  0x001FFE_0003C5_0003C5_0003C5_0003C5_0003C1_0003C1_0003C5_0003C5_0003A5_0003A5_0003A5,
  0x0003A5_0003A1_0000A8_0000A8_0003C9_0003C9_0003C9_0003C9_0003C9_00039F_00039F_0003A9,
  0x0003A9_0003A9_000041_002190_002192_002194_0021D0_0021D4_0021D2_002203_002208_00220B,
  0x002223_002225_00223C_002243_002245_002248_00003D_002261_00224D_00003C_00003E_002264,
  0x002265_002272_002273_002276_002277_00227A_00227B_002282_002283_002286_002287_0022A2,
  0x0022A8_0022A9_0022AB_00227C_00227D_002291_002292_0022B2_0022B3_0022B4_0022B5_002ADD,
  0x00304B_00304D_00304F_003051_003053_003055_003057_003059_00305B_00305D_00305F_003061,
  0x003064_003066_003068_00306F_00306F_003072_003072_003075_003075_003078_003078_00307B,
  0x00307B_003046_00309D_0030AB_0030AD_0030AF_0030B1_0030B3_0030B5_0030B7_0030B9_0030BB,
  0x0030BD_0030BF_0030C1_0030C4_0030C6_0030C8_0030CF_0030CF_0030D2_0030D2_0030D5_0030D5,
  0x0030D8_0030D8_0030DB_0030DB_0030A6_0030EF_0030F0_0030F1_0030F2_0030FD_0005D9_0005F2,
  0x0005E9_0005E9_0005E9_0005E9_0005D0_0005D0_0005D0_0005D1_0005D2_0005D3_0005D4_0005D5,
  0x0005D6_0005D8_0005D9_0005DA_0005DB_0005DC_0005DE_0005E0_0005E1_0005E3_0005E4_0005E6,
  0x0005E7_0005E8_0005E9_0005EA_0005D5_0005D1_0005DB_0005E4_011099_01109B_0110A5_01D157,
  0x01D158_01D158_01D158_01D158_01D158_01D158_01D1B9_01D1BA_01D1B9_01D1BA_01D1B9_01D1BA]

end UnicodeText.Data
