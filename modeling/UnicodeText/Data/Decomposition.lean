import UnicodeText.Table.Block

namespace UnicodeText.Data

/-- Offsets into `decompositionCodes`, four times each, plus 1 for an entry of compatibility and plus
2 for an entry whose codes decompose further. -/
def decompositionOffset : BlockTable 16 257 where
  span := 4352
  index := .ofRows 32 [
    0x00010203040506070708090A0B0C0D0E0F070707070707070707071007111213,
    0x1415161718070707070719071A1B1C1D1E1F2021070707070707070707070707,
    0x0707070707070707070707070707070707070707070707070707070707070707,
    0x0707070707070707070707070707070707070707070707070707070707070707,
    0x0707070707070707070707070707070707070707070707070707070707070707,
    0x0707070707072223070707240707070707070707070707070707070707070707,
    0x0707070707070707070707070707070707070707070707070707070707070707,
    0x0707070707070707070707070707070707070707070707070725262728292A2B,
    0x070707070707072C07070707070707072D2E072F303107070732070707070707,
    0x0707070707070707070707070707070707070707070707070707070707070707,
    0x0707070707070707070707070707070707070707070707070707070707070707,
    0x0707070707070707070707070707070707070707070707070707070707070707,
    0x0707070707070707070707070707070707070707070707070707070707070707,
    0x0707070707070707070707070707070707070707070707070707070707070707,
    0x0707070707070707070707070707070707330707343536370707070707070707,
    0x38070707070707070707070707073907073A3B07070707070707073C07070707,
    0x0707070707070707070707070707070707070707070707070707070707070707,
    0x0707070707070707070707070707070707070707070707070707070707070707,
    0x0707070707070707070707070707070707070707070707070707070707070707,
    0x0707070707070707070707070707070707070707070707070707070707070707,
    0x0707070707070707070707070707070707070707070707070707070707070707,
    0x0707070707070707070707070707070707070707070707070707070707070707,
    0x0707070707070707070707070707070707070707070707070707070707070707,
    0x0707070707070707070707070707070707070707070707073D3E3F0707070707,
    0x0707070707070707070707070707070707070707070707070707070707070707,
    0x0707070707070707070707070707070707070707070707070707070707070707,
    0x0707070707070707070707070707070707070707070707070707070707070707,
    0x0707070707070707070707070707070707070707070707070707070707070707,
    0x0707070707070707070707070707070707070707070707070707070707070707,
    0x0707070707070707070707070707070707070707070707070707070707070707,
    0x0707070707070707070707070707070707070707070707070707070707070707,
    0x0707070707070707070707070707070707070707070707070707070707070707,
    0x0707070707070707070707070707070707070707070707070707070707070707,
    0x0707070707070707070707070707070707070707070707070707070707070707,
    0x0707070707070707070707070707070707070707070707070707070707070707,
    0x0707070707070707070707070707070707070707070707070707070707070707,
    0x0707070707070707070707070707070707070707070707070707070707070707,
    0x0707070707070707070707070707070707070707070707070707070707070707,
    0x0707070707070707070707070707070707070707070707070707070707070707,
    0x0707070707070707070707070707070707070707070707070707070707070707,
    0x0707070707070707070707070707070707070707070707070707070707070707,
    0x0707070707070707070707070707070707070707070707070707070707070707,
    0x0707070707070707070707070707070707070707070707070707070707070707,
    0x0707070707070707070707070707070707070707070707070707070707070707,
    0x0707070707070707070707070707070707070707070707070707070707070707,
    0x0707070707070707070707070707070707070707070707070707070707070707,
    0x0707070707070707070707070707070707070707070707070707070707070707,
    0x0707070707070707070707070707070707070707070707070707070707070707,
    0x0707070707070707070707070707070707070707070707070707070707070707,
    0x0707070707070707070707070707070707070707070707070707070707070707,
    0x0707070707070707070707070707070707070707070707070707070707070707,
    0x0707070707070707070707070707070707070707070707070707070707070707,
    0x0707070707070707070707070707070707070707070707070707070707070707,
    0x0707070707070707070707070707070707070707070707070707070707070707,
    0x0707070707070707070707070707070707070707070707070707070707070707,
    0x0707070707070707070707070707070707070707070707070707070707070707,
    0x0707070707070707070707070707070707070707070707070707070707070707,
    0x0707070707070707070707070707070707070707070707070707070707070707,
    0x0707070707070707070707070707070707070707070707070707070707070707,
    0x0707070707070707070707070707070707070707070707070707070707070707,
    0x0707070707070707070707070707070707070707070707070707070707070707,
    0x0707070707070707070707070707070707070707070707070707070707070707,
    0x0707070707070707070707070707070707070707070707070707070707070707,
    0x0707070707070707070707070707070707070707070707070707070707070707,
    0x0707070707070707070707070707070707070707070707070707070707070707,
    0x0707070707070707070707070707070707070707070707070707070707070707,
    0x0707070707070707070707070707070707070707070707070707070707070707,
    0x0707070707070707070707070707070707070707070707070707070707070707,
    0x0707070707070707070707070707070707070707070707070707070707070707,
    0x0707070707070707070707070707070707070707070707070707070707070707,
    0x0707070707070707070707070707070707070707070707070707070707070707,
    0x0707070707070707070707070707070707070707070707070707070707070707,
    0x0707070707070707070707070707070707070707070707070707070707070707,
    0x0707070707070707070707070707070707070707070707070707070707070707,
    0x0707070707070707070707070707070707070707070707070707070707070707,
    0x0707070707070707070707070707070707070707070707070707070707070707,
    0x0707070707070707070707070707070707070707070707070707070707070707,
    0x0707070707070707070707070707070707070707070707070707070707070707,
    0x0707070707070707070707070707070707070707070707070707070707070707,
    0x0707070707070707070707070707070707070707070707070707070707070707,
    0x0707070707070707070707070707070707070707070707070707070707070707,
    0x0707070707070707070707070707070707070707070707070707070707070707,
    0x0707070707070707070707070707070707070707070707070707070707070707,
    0x0707070707070707070707070707070707070707070707070707070707070707,
    0x0707070707070707070707070707070707070707070707070707070707070707,
    0x0707070707070707070707070707070707070707070707070707070707070707,
    0x0707070707070707070707070707070707070707070707070707070707070707,
    0x0707070707070707070707070707070707070707070707070707070707070707,
    0x0707070707070707070707070707070707070707070707070707070707070707,
    0x0707070707070707070707070707070707070707070707070707070707070707,
    0x0707070707070707070707070707070707070707070707070707070707070707,
    0x0707070707070707070707070707070707070707070707070707070707070707,
    0x0707070707070707070707070707070707070707070707070707070707070707,
    0x0707070707070707070707070707070707070707070707070707070707070707,
    0x0707070707070707070707070707070707070707070707070707070707070707,
    0x0707070707070707070707070707070707070707070707070707070707070707,
    0x0707070707070707070707070707070707070707070707070707070707070707,
    0x0707070707070707070707070707070707070707070707070707070707070707,
    0x0707070707070707070707070707070707070707070707070707070707070707,
    0x0707070707070707070707070707070707070707070707070707070707070707,
    0x0707070707070707070707070707070707070707070707070707070707070707,
    0x0707070707070707070707070707070707070707070707070707070707070707,
    0x0707070707070707070707070707070707070707070707070707070707070707,
    0x0707070707070707070707070707070707070707070707070707070707070707,
    0x0707070707070707070707070707070707070707070707070707070707070707,
    0x0707070707070707070707070707070707070707070707070707070707070707,
    0x0707070707070707070707070707070707070707070707070707070707070707,
    0x0707070707070707070707070707070707070707070707070707070707070707,
    0x0707070707070707070707070707070707070707070707070707070707070707,
    0x0707070707070707070707070707070707070707070707070707070707070707,
    0x0707070707070707070707070707070707070707070707070707070707070707,
    0x0707070707070707070707070707070707070707070707070707070707070707,
    0x0707070707070707070707070707070707070707070707070707070707070707,
    0x0707070707070707070707070707070707070707070707070707070707070707,
    0x0707070707070707070707070707070707070707070707070707070707070707,
    0x0707070707070707070707070707070707070707070707070707070707070707,
    0x0707070707070707070707070707070707070707070707070707070707070707,
    0x0707070707070707070707070707070707070707070707070707070707070707,
    0x0707070707070707070707070707070707070707070707070707070707070707,
    0x0707070707070707070707070707070707070707070707070707070707070707,
    0x0707070707070707070707070707070707070707070707070707070707070707,
    0x0707070707070707070707070707070707070707070707070707070707070707,
    0x0707070707070707070707070707070707070707070707070707070707070707,
    0x0707070707070707070707070707070707070707070707070707070707070707,
    0x0707070707070707070707070707070707070707070707070707070707070707,
    0x0707070707070707070707070707070707070707070707070707070707070707,
    0x0707070707070707070707070707070707070707070707070707070707070707,
    0x0707070707070707070707070707070707070707070707070707070707070707,
    0x0707070707070707070707070707070707070707070707070707070707070707,
    0x0707070707070707070707070707070707070707070707070707070707070707,
    0x0707070707070707070707070707070707070707070707070707070707070707,
    0x0707070707070707070707070707070707070707070707070707070707070707,
    0x0707070707070707070707070707070707070707070707070707070707070707,
    0x0707070707070707070707070707070707070707070707070707070707070707,
    0x0707070707070707070707070707070707070707070707070707070707070707,
    0x0707070707070707070707070707070707070707070707070707070707070707]
  count := 64
  cells := .ofRows 16 [
    0x0000_0000_0000_0000_0000_0000_0000_0000_0000_0000_0000_0000_0000_0000_0000_0000,
    0x0000_0000_0000_0000_0000_0000_0000_0000_0000_0000_0000_0000_0000_0000_0000_0000,
    0x0000_0000_0000_0000_0000_0000_0000_0000_0000_0000_0000_0000_0000_0000_0000_0000,
    0x0000_0000_0000_0000_0000_0000_0000_0000_0000_0000_0000_0000_0000_0000_0000_0000,
    0x0000_0000_0000_0000_0000_0000_0000_0000_0000_0000_0000_0000_0000_0000_0000_0000,
    0x0000_0000_0000_0000_0000_0000_0000_0000_0000_0000_0000_0000_0000_0000_0000_0000,
    0x0000_0000_0000_0000_0000_0000_0000_0000_0000_0000_0000_0000_0000_0000_0000_0000,
    0x0000_0000_0000_0000_0000_0000_0000_0000_0000_0000_0000_0000_0000_0000_0000_0000,
    0x0000_0000_0000_0000_0000_0000_0000_0000_0000_0000_0000_0000_0000_0000_0000_0000,
    0x0000_0000_0000_0000_0000_0000_0000_0000_0000_0000_0000_0000_0000_0000_0000_0000,
    0x0001_0004_0004_0004_0004_0004_0004_0004_0005_000C_000D_0010_0010_0010_0010_0011,
    0x0018_0018_0019_001D_0021_0029_002C_002C_002D_0035_0039_003C_003D_0049_0055_0060,
    0x0060_0068_0070_0078_0080_0088_0090_0090_0098_00A0_00A8_00B0_00B8_00C0_00C8_00D0,
    0x00D8_00D8_00E0_00E8_00F0_00F8_0100_0108_0108_0108_0110_0118_0120_0128_0130_0130,
    0x0130_0138_0140_0148_0150_0158_0160_0160_0168_0170_0178_0180_0188_0190_0198_01A0,
    0x01A8_01A8_01B0_01B8_01C0_01C8_01D0_01D8_01D8_01D8_01E0_01E8_01F0_01F8_0200_0200,
    0x0208_0208_0210_0218_0220_0228_0230_0238_0240_0248_0250_0258_0260_0268_0270_0278,
    0x0280_0288_0288_0288_0290_0298_02A0_02A8_02B0_02B8_02C0_02C8_02D0_02D8_02E0_02E8,
    0x02F0_02F8_0300_0308_0310_0318_0320_0328_0328_0328_0330_0338_0340_0348_0350_0358,
    0x0360_0368_0370_0371_0379_0380_0388_0390_0398_03A0_03A0_03A8_03B0_03B8_03C0_03C8,
    0x03D1_03D9_03E0_03E0_03E0_03E8_03F0_03F8_0400_0408_0411_0418_0418_0418_0420_0428,
    0x0430_0438_0440_0448_0448_0448_0450_0458_0460_0468_0470_0478_0480_0488_0490_0498,
    0x04A0_04A8_04B0_04B8_04C0_04C8_04D0_04D8_04D8_04D8_04E0_04E8_04F0_04F8_0500_0508,
    0x0510_0518_0520_0528_0530_0538_0540_0548_0550_0558_0560_0568_0570_0578_0580_0588,
    0x0591_0594_0594_0594_0594_0594_0594_0594_0594_0594_0594_0594_0594_0594_0594_0594,
    0x0594_0594_0594_0594_0594_0594_0594_0594_0594_0594_0594_0594_0594_0594_0594_0594,
    0x0594_0594_059C_05A4_05A4_05A4_05A4_05A4_05A4_05A4_05A4_05A4_05A4_05A4_05A4_05A4,
    0x05A4_05AC_05B4_05B4_05B4_05B4_05B4_05B4_05B4_05B4_05B4_05B4_05B4_05B4_05B4_05B4,
    0x05B4_05B4_05B4_05B4_05B4_05B7_05BF_05C7_05CD_05D5_05DD_05E5_05ED_05F5_05FC_0604,
    0x060C_0614_061C_0624_062C_0634_063E_0646_064E_0656_065E_0666_066E_0676_067C_067E,
    0x0686_068E_0696_069C_06A4_06AC_06AC_06AC_06B4_06BC_06C4_06CC_06D4_06DE_06E6_06EC,
    0x06F4_06FC_0705_070D_0715_071C_0724_072C_072C_072C_0734_073E_0746_074C_0754_075C,
    0x0764_076C_076C_0774_077C_0784_078C_0794_079C_07A4_07AC_07B4_07BC_07C4_07CC_07D4,
    0x07DC_07E4_07EC_07F4_07FC_0804_080C_0814_081C_0824_082C_0834_083C_0844_084C_084C,
    0x084C_0854_085C_085C_085C_085C_085C_085C_085C_0864_086C_0874_087E_0886_088E_0896,
    0x089C_08A4_08AE_08B6_08BC_08C4_08CC_08CC_08CC_08CC_08CC_08CC_08CC_08CC_08CC_08CC,
    0x08CC_08CC_08CC_08CC_08CC_08CC_08CC_08CC_08CC_08CC_08CC_08CC_08CC_08CC_08CC_08CC,
    0x08CC_08CC_08CC_08CC_08CC_08CC_08CC_08CC_08CC_08CC_08CC_08CC_08CC_08CC_08CC_08CC,
    0x08CC_08CC_08CC_08CC_08CC_08CC_08CC_08CC_08CC_08CC_08CC_08CC_08CC_08CC_08CC_08CC,
    0x08CC_08CC_08CC_08CC_08CC_08CC_08CC_08CC_08CC_08CC_08CC_08CC_08CC_08CC_08CC_08CC,
    0x08CC_08CC_08CC_08CC_08CC_08CC_08CC_08CC_08CC_08CC_08CC_08CC_08CC_08CC_08CC_08CC,
    0x08CC_08CC_08CC_08CC_08CC_08CC_08CC_08CC_08CC_08CC_08CC_08CC_08CC_08CC_08CC_08CC,
    0x08CC_08CC_08CC_08CC_08CC_08CC_08CC_08CC_08CC_08CC_08CC_08CC_08CC_08CC_08CC_08CC,
    0x08CC_08CC_08CD_08D1_08D5_08D9_08DD_08E1_08E5_08E9_08ED_08F0_08F0_08F0_08F0_08F0,
    0x08F0_08F0_08F0_08F0_08F0_08F0_08F0_08F0_08F0_08F0_08F0_08F0_08F0_08F0_08F0_08F0,
    0x08F0_08F0_08F0_08F0_08F0_08F0_08F0_08F0_08F0_08F0_08F1_08F9_0901_0909_0911_0919,
    0x0920_0920_0921_0925_0929_092D_0931_0934_0934_0934_0934_0934_0934_0934_0934_0934,
    0x0934_0934_0934_0934_0934_0934_0934_0934_0934_0934_0934_0934_0934_0934_0934_0934,
    0x0934_0934_0934_0934_0934_0934_0934_0934_0934_0934_0934_0934_0934_0934_0934_0934,
    0x0934_0934_0934_0934_0934_0934_0934_0934_0934_0934_0934_0934_0934_0934_0934_0934,
    0x0934_0934_0934_0934_0934_0934_0934_0934_0934_0934_0934_0934_0934_0934_0934_0934,
    0x0934_0934_0934_0934_0934_0934_0934_0934_0934_0934_0934_0934_0934_0934_0934_0934,
    0x0934_0934_0934_0934_0938_093C_093C_0940_0948_0948_0948_0948_0948_0948_0948_0948,
    0x0948_0948_0948_0948_0948_0948_0948_0948_0948_0948_0948_0948_0948_0948_0948_0948,
    0x0948_0948_0948_0948_0948_0948_0948_0948_0948_0948_0948_0948_0948_0948_0948_0948,
    0x0948_0948_0948_0948_0948_0948_0948_0948_094C_094C_094C_094C_094C_094D_0954_0954,
    0x0954_0954_0958_0958_0958_0958_0958_0959_0962_0968_0970_0974_097C_0984_098C_098C,
    0x0994_0994_099C_09A6_09AC_09AC_09AC_09AC_09AC_09AC_09AC_09AC_09AC_09AC_09AC_09AC,
    0x09AC_09AC_09AC_09AC_09AC_09AC_09AC_09AC_09AC_09AC_09AC_09AC_09AC_09AC_09B4_09BC,
    0x09C4_09CC_09D4_09DE_09E4_09E4_09E4_09E4_09E4_09E4_09E4_09E4_09E4_09E4_09E4_09E4,
    0x09E4_09E4_09E4_09E4_09E4_09E4_09E4_09E4_09E4_09E4_09E4_09E4_09E4_09E4_09EC_09F4,
    0x09FC_0A04_0A0C_0A0D_0A11_0A15_0A1A_0A22_0A29_0A2D_0A30_0A30_0A30_0A30_0A30_0A30,
    0x0A30_0A30_0A30_0A30_0A30_0A30_0A30_0A30_0A30_0A30_0A30_0A30_0A30_0A30_0A30_0A30,
    0x0A30_0A30_0A30_0A31_0A35_0A39_0A3C_0A3D_0A41_0A44_0A44_0A44_0A45_0A48_0A48_0A48,
    0x0A48_0A48_0A48_0A48_0A48_0A50_0A58_0A58_0A60_0A60_0A60_0A60_0A68_0A68_0A68_0A68,
    0x0A68_0A70_0A78_0A80_0A80_0A80_0A80_0A80_0A80_0A80_0A80_0A80_0A80_0A80_0A88_0A88,
    0x0A88_0A88_0A88_0A88_0A88_0A88_0A88_0A88_0A88_0A88_0A88_0A88_0A88_0A88_0A88_0A88,
    0x0A88_0A88_0A88_0A88_0A88_0A88_0A88_0A88_0A88_0A88_0A88_0A88_0A88_0A88_0A90_0A90,
    0x0A90_0A90_0A90_0A90_0A90_0A90_0A90_0A90_0A90_0A90_0A90_0A90_0A90_0A90_0A90_0A90,
    0x0A90_0A90_0A90_0A90_0A90_0A98_0AA0_0AA0_0AA8_0AA8_0AA8_0AA8_0AB0_0AB0_0AB0_0AB0,
    0x0AB0_0AB8_0AC0_0AC8_0AC8_0AC8_0AC8_0AC8_0AC8_0AC8_0AC8_0AC8_0AC8_0AC8_0AC8_0AC8,
    0x0AC8_0AC8_0AC8_0AC8_0AC8_0AC8_0AC8_0AC8_0AC8_0AC8_0AC8_0AD0_0AD8_0AD8_0AD8_0AD8,
    0x0AD8_0AD8_0AD8_0AD8_0AD8_0AD8_0AD8_0AD8_0AD8_0AD8_0AD8_0AD8_0AD8_0AD8_0AD8_0AD8,
    0x0AD8_0AD8_0AD8_0AD8_0AD8_0AD8_0AD8_0AD8_0AD8_0AD8_0AD8_0AD8_0AD8_0AD8_0AD8_0AD8,
    0x0AD8_0AD8_0AD8_0AD8_0AD8_0AD8_0AD8_0AD8_0AD8_0AD8_0AD8_0AD8_0AD8_0AD8_0AD8_0AD8,
    0x0AD8_0AD8_0AD8_0AD8_0AD8_0AD8_0AD8_0AD8_0AD8_0AD8_0AD8_0AD8_0AD8_0AD8_0AD8_0AD8,
    0x0AD8_0AD8_0AD8_0AD8_0AD8_0AD8_0AE0_0AE8_0AE8_0AE8_0AE8_0AE8_0AE8_0AE8_0AE8_0AE8,
    0x0AE8_0AE8_0AE8_0AE8_0AE8_0AF0_0AF8_0B00_0B08_0B08_0B08_0B10_0B18_0B18_0B18_0B20,
    0x0B28_0B30_0B38_0B40_0B48_0B48_0B48_0B50_0B58_0B60_0B68_0B70_0B78_0B78_0B78_0B80,
    0x0B88_0B90_0B98_0BA0_0BA8_0BB0_0BB8_0BC0_0BC8_0BD0_0BD8_0BD8_0BD8_0BE0_0BE8_0BE8,
    0x0BE8_0BE8_0BE8_0BE8_0BE8_0BE8_0BE8_0BE8_0BE8_0BE8_0BE8_0BE8_0BE8_0BE8_0BE8_0BE8,
    0x0BE8_0BE8_0BE8_0BE8_0BE8_0BE8_0BE8_0BE8_0BE8_0BE8_0BE8_0BE8_0BE8_0BE8_0BE8_0BE8,
    0x0BE8_0BE8_0BE8_0BE8_0BE8_0BE8_0BE8_0BE8_0BE8_0BE8_0BE8_0BE8_0BE8_0BE8_0BE8_0BE8,
    0x0BE8_0BE8_0BE8_0BE8_0BE8_0BE8_0BE8_0BE8_0BE8_0BE8_0BE8_0BE8_0BE8_0BE8_0BE8_0BE8,
    0x0BE8_0BE8_0BE8_0BE8_0BE8_0BE8_0BE8_0BE8_0BE8_0BE8_0BE8_0BE8_0BE8_0BE8_0BE8_0BE8,
    0x0BE8_0BE8_0BE8_0BE8_0BE8_0BE8_0BE8_0BE8_0BE8_0BE8_0BE8_0BE8_0BE8_0BE8_0BE8_0BE8,
    0x0BE8_0BE8_0BE8_0BE8_0BE8_0BE8_0BE8_0BE8_0BE8_0BE8_0BE8_0BE8_0BE8_0BE8_0BE8_0BE8,
    0x0BE8_0BE8_0BE8_0BE8_0BE8_0BE8_0BE8_0BE8_0BE8_0BE8_0BE8_0BE8_0BE8_0BE8_0BE8_0BE8,
    0x0BE8_0BE8_0BE8_0BE8_0BE8_0BE8_0BE8_0BE8_0BE8_0BE8_0BE8_0BE8_0BE9_0BF0_0BF0_0BF0,
    0x0BF0_0BF0_0BF0_0BF0_0BF0_0BF0_0BF0_0BF0_0BF0_0BF0_0BF0_0BF0_0BF0_0BF0_0BF0_0BF0,
    0x0BF0_0BF0_0BF0_0BF0_0BF0_0BF0_0BF0_0BF0_0BF0_0BF0_0BF0_0BF0_0BF0_0BF0_0BF0_0BF0,
    0x0BF0_0BF0_0BF0_0BF0_0BF0_0BF0_0BF0_0BF0_0BF0_0BF0_0BF0_0BF0_0BF0_0BF0_0BF0_0BF0,
    0x0BF0_0BF0_0BF0_0BF0_0BF0_0BF0_0BF0_0BF0_0BF0_0BF0_0BF0_0BF0_0BF0_0BF0_0BF0_0BF0,
    0x0BF0_0BF0_0BF0_0BF0_0BF0_0BF0_0BF0_0BF0_0BF0_0BF0_0BF0_0BF0_0BF0_0BF0_0BF0_0BF0,
    0x0BF0_0BF0_0BF0_0BF0_0BF0_0BF0_0BF0_0BF0_0BF0_0BF0_0BF0_0BF0_0BF0_0BF0_0BF0_0BF0,
    0x0BF0_0BF0_0BF0_0BF0_0BF0_0BF0_0BF0_0BF0_0BF0_0BF0_0BF0_0BF0_0BF0_0BF0_0BF0_0BF0,
    0x0BF0_0BF0_0BF0_0BF0_0BF0_0BF0_0BF0_0BF0_0BF0_0BF0_0BF0_0BF0_0BF0_0BF0_0BF0_0BF0,
    0x0BF0_0BF0_0BF0_0BF0_0BF0_0BF0_0BF0_0BF0_0BF0_0BF0_0BF0_0BF0_0BF0_0BF0_0BF0_0BF0,
    0x0BF0_0BF0_0BF0_0BF0_0BF0_0BF0_0BF0_0BF0_0BF0_0BF8_0C00_0C08_0C10_0C18_0C18_0C18,
    0x0C18_0C18_0C18_0C18_0C18_0C18_0C18_0C18_0C18_0C18_0C18_0C18_0C18_0C18_0C18_0C18,
    0x0C18_0C18_0C18_0C18_0C18_0C18_0C18_0C18_0C18_0C18_0C18_0C18_0C18_0C18_0C18_0C18,
    0x0C18_0C18_0C18_0C18_0C18_0C18_0C18_0C18_0C18_0C18_0C18_0C18_0C18_0C18_0C18_0C18,
    0x0C18_0C18_0C18_0C18_0C18_0C18_0C18_0C18_0C18_0C18_0C18_0C18_0C18_0C18_0C18_0C18,
    0x0C18_0C18_0C18_0C18_0C18_0C18_0C18_0C18_0C18_0C18_0C18_0C19_0C21_0C29_0C31_0C38,
    0x0C38_0C38_0C38_0C38_0C38_0C38_0C38_0C38_0C38_0C38_0C38_0C38_0C38_0C38_0C38_0C38,
    0x0C38_0C38_0C38_0C38_0C38_0C38_0C38_0C38_0C38_0C38_0C38_0C38_0C38_0C38_0C38_0C38,
    0x0C38_0C38_0C38_0C38_0C38_0C38_0C38_0C38_0C38_0C38_0C38_0C38_0C38_0C38_0C38_0C38,
    0x0C38_0C38_0C38_0C38_0C38_0C38_0C38_0C38_0C38_0C38_0C38_0C38_0C38_0C38_0C38_0C38,
    0x0C38_0C38_0C38_0C38_0C38_0C38_0C38_0C40_0C40_0C48_0C48_0C48_0C48_0C48_0C48_0C48,
    0x0C48_0C48_0C48_0C48_0C48_0C48_0C48_0C48_0C48_0C48_0C50_0C50_0C50_0C50_0C50_0C50,
    0x0C50_0C50_0C50_0C50_0C50_0C50_0C50_0C50_0C50_0C50_0C50_0C50_0C50_0C50_0C50_0C50,
    0x0C50_0C50_0C50_0C50_0C50_0C50_0C50_0C50_0C50_0C50_0C50_0C50_0C50_0C50_0C50_0C50,
    0x0C50_0C50_0C50_0C50_0C50_0C50_0C50_0000_0000_0000_0000_0000_0000_0000_0000_0000,
    0x0000_0000_0000_0000_0000_0000_0000_0000_0000_0000_0000_0000_0000_0000_0000_0000,
    0x0000_0000_0000_0000_0000_0000_0000_0000_0000_0000_0000_0000_0000_0000_0000_0000,
    0x0000_0000_0000_0000_0000_0000_0000_0000_0000_0000_0000_0000_0000_0000_0000_0000,
    0x0000_0000_0000_0000_0000_0000_0000_0000_0000_0000_0000_0000_0000_0000_0000_0000,
    0x0000_0000_0000_0000_0000_0000_0000_0000_0000_0000_0000_0000_0000_0000_0000_0000,
    0x0000_0000_0000_0000_0000_0000_0000_0000_0000_0000_0000_0000_0000_0000_0000_0000,
    0x0000_0000_0000_0000_0000_0000_0000_0000_0000_0000_0000_0000_0000_0000_0000_0000,
    0x0000_0000_0000_0000_0000_0000_0000_0000_0000_0000_0000_0000_0000_0000_0000_0000,
    0x0000_0000_0000_0000_0000_0000_0000_0000_0000_0000_0000_0000_0000_0000_0000_0000,
    0x0000_0000_0000_0000_0000_0000_0000_0000_0000_0000_0000_0000_0000_0000_0000_0000,
    0x0000_0000_0000_0000_0000_0000_0000_0000_0000_0000_0000_0000_0000_0000_0000_0000,
    0x0000_0000_0000_0000_0000_0000_0000_0000_0000_0000_0000_0000_0000_0000_0000_0000,
    0x0000_0000_0000_0000_0000_0000_0000_0000_0000_0000_0000_0000_0000_0000_0000_0000,
    0x0000_0000_0000_0000_0000_0000_0000_0000_0000_0000_0000_0000_0000_0000_0000_0000,
    0x0000_0000_0000_0000_0000_0000_0000_0000_0000_0000_0000_0000_0000_0000_0000_0000,
    0x0000_0000_0000_0000_0000_0000_0000_0000_0C50_0C50_0C50_0C50_0C50_0C50_0C50_0C50,
    0x0C50_0C50_0C50_0C50_0C50_0C50_0C50_0C50_0C50_0C50_0C50_0C50_0C50_0C50_0C50_0C50,
    0x0C50_0C50_0C50_0C50_0C50_0C50_0C50_0C50_0C50_0C50_0C50_0C50_0C50_0C50_0C50_0C50,
    0x0C50_0C50_0C58_0C58_0C58_0C58_0C58_0C58_0C58_0C58_0C60_0C60_0C60_0C68_0C68_0C68,
    0x0C68_0C68_0C68_0C68_0C68_0C68_0C68_0C68_0C68_0C68_0C68_0C68_0C68_0C68_0C68_0C68,
    0x0C68_0C68_0C68_0C68_0C68_0C68_0C68_0C68_0C68_0C68_0C68_0C68_0C68_0C68_0C68_0C68,
    0x0C68_0C70_0C78_0C80_0C88_0C90_0C98_0CA0_0CA8_0CA8_0CA8_0CA8_0CA8_0CA8_0CA8_0CA8,
    0x0CA8_0CA8_0CA8_0CA8_0CA8_0CA8_0CA8_0CA8_0CA8_0CA8_0CA8_0CA8_0CA8_0CA8_0CA8_0CA8,
    0x0CA8_0CA8_0CA8_0CA8_0CA8_0CA8_0CA8_0CA8_0CA8_0CA8_0CA8_0CA8_0CA8_0CA8_0CA8_0CA8,
    0x0CA8_0CA8_0CA8_0CA8_0CA8_0CA8_0CA8_0CA8_0CA8_0CA8_0CA8_0CA8_0CA8_0CA8_0CA8_0CA8,
    0x0CA8_0CA8_0CA8_0CA8_0CA8_0CA8_0CA8_0CA8_0CA8_0CA8_0CA8_0CA8_0CA8_0CA8_0CA8_0CA8,
    0x0CA8_0CA8_0CA8_0CA8_0CA8_0CA8_0CA8_0CA8_0CA8_0CA8_0CA8_0CA8_0CA8_0CA8_0CA8_0CA8,
    0x0CA8_0CA8_0CA8_0CA8_0CA8_0CA8_0CA8_0CA8_0CA8_0CA8_0CA8_0CA8_0CA8_0CA8_0CA8_0CA8,
    0x0CA8_0CA8_0CA8_0CA8_0CB0_0CB8_0CB8_0CB8_0CB8_0CB8_0CB8_0CB8_0CB8_0CB8_0CB8_0CB8,
    0x0CB8_0CB8_0CB8_0CB8_0CB8_0CC0_0CC8_0CC8_0CD0_0CD0_0CD0_0CD0_0CD0_0CD0_0CD0_0CD0,
    0x0CD0_0CD0_0CD0_0CD0_0CD0_0CD0_0CD0_0CD0_0CD0_0CD0_0CD0_0CD0_0CD0_0CD0_0CD0_0CD0,
    0x0CD0_0CD0_0CD0_0CD0_0CD0_0CD0_0CD0_0CD0_0CD0_0CD0_0CD0_0CD0_0CD0_0CD0_0CD0_0CD0,
    0x0CD0_0CD0_0CD0_0CD0_0CD0_0CD0_0CD0_0CD0_0CD0_0CD0_0CD0_0CD0_0CD0_0CD0_0CD0_0CD0,
    0x0CD0_0CD0_0CD0_0CD0_0CD0_0CD0_0CD0_0CD0_0CD0_0CD0_0CD0_0CD0_0CD0_0CD0_0CD0_0CD0,
    0x0CD0_0CD0_0CD0_0CD0_0CD0_0CD0_0CD0_0CD0_0CD0_0CD0_0CD0_0CD0_0CD0_0CD8_0CD8_0CD8,
    0x0CE0_0CE0_0CE0_0CE0_0CE0_0CE0_0CE0_0CE0_0CE0_0CE0_0CE0_0CE0_0CE0_0CE0_0CE0_0CE0,
    0x0CE0_0CE0_0CE0_0CE0_0CE0_0CE0_0CE0_0CE0_0CE0_0CE0_0CE0_0CE0_0CE0_0CE0_0CE0_0CE0,
    0x0CE0_0CE0_0CE0_0CE8_0CF0_0CF8_0CF8_0CF8_0D00_0D00_0D00_0D00_0D00_0D00_0D00_0D00,
    0x0D00_0D00_0D00_0D00_0D00_0D00_0D00_0D00_0D00_0D00_0D00_0D00_0D00_0D00_0D00_0D00,
    0x0D00_0D00_0D00_0D00_0D00_0D00_0D00_0D00_0D00_0D00_0D00_0D00_0D00_0D00_0D00_0D00,
    0x0D00_0D00_0D00_0D00_0D00_0D00_0D00_0D00_0D00_0D00_0D00_0D00_0D00_0D00_0D00_0D00,
    0x0D00_0D00_0D00_0D00_0D00_0D00_0D00_0D00_0D00_0D00_0D00_0D00_0D00_0D00_0D00_0D00,
    0x0D00_0D00_0D00_0D00_0D00_0D00_0D00_0D00_0D00_0D00_0D00_0D00_0D00_0D00_0D00_0D00,
    0x0D00_0D00_0D00_0D00_0D00_0D00_0D00_0D00_0D00_0D00_0D00_0D00_0D00_0D00_0D00_0D00,
    0x0D00_0D00_0D00_0D00_0D00_0D00_0D00_0D00_0D00_0D00_0D00_0D00_0D00_0D00_0D00_0D00,
    0x0D00_0D00_0D00_0D00_0D00_0D00_0D00_0D00_0D00_0D00_0D00_0D00_0D00_0D00_0D00_0D00,
    0x0D00_0D00_0D00_0D00_0D00_0D00_0D00_0D00_0D00_0D00_0D00_0D00_0D00_0D00_0D00_0D00,
    0x0D00_0D00_0D00_0D00_0D00_0D00_0D00_0D00_0D00_0D00_0D00_0D00_0D00_0D00_0D00_0D00,
    0x0D00_0D00_0D00_0D00_0D00_0D00_0D00_0D00_0D00_0D00_0D00_0D00_0D00_0D00_0D00_0D00,
    0x0D00_0D00_0D00_0D00_0D00_0D00_0D00_0D00_0D00_0D00_0D00_0D00_0D00_0D00_0D00_0D00,
    0x0D00_0D00_0D00_0D00_0D00_0D00_0D00_0D00_0D00_0D00_0D00_0D00_0D00_0D00_0D00_0D00,
    0x0D00_0D00_0D00_0D00_0D00_0D00_0D00_0D00_0D00_0D00_0D00_0D00_0D00_0D00_0D00_0D00,
    0x0D00_0D00_0D00_0D08_0D08_0D08_0D10_0D18_0D18_0D18_0D18_0D18_0D18_0D18_0D18_0D18,
    0x0D18_0D18_0D18_0D18_0D18_0D18_0D18_0D20_0D28_0D28_0D28_0D28_0D28_0D28_0D28_0D28,
    0x0D28_0D28_0D28_0D28_0D28_0D28_0D28_0D28_0D28_0D28_0D28_0D28_0D28_0D28_0D28_0D28,
    0x0D28_0D28_0D28_0D28_0D28_0D28_0D28_0D28_0D28_0D28_0D28_0D28_0D28_0D28_0D28_0D28,
    0x0D28_0D28_0D28_0D28_0D28_0D28_0D28_0D28_0D28_0D28_0D28_0D28_0D28_0D28_0D28_0D30,
    0x0D30_0D30_0D30_0D30_0D30_0D30_0D30_0D30_0D30_0D30_0D30_0D30_0D30_0D30_0D30_0D30,
    0x0D30_0D30_0D30_0D30_0D30_0D30_0D30_0D30_0D30_0D30_0D30_0D30_0D30_0D30_0D30_0D30,
    0x0D30_0D30_0D30_0D30_0D30_0D30_0D30_0D30_0D30_0D30_0D30_0D30_0D30_0D30_0D30_0D30,
    0x0D30_0D30_0D30_0D30_0D30_0D38_0D40_0D48_0D48_0D48_0D48_0D48_0D48_0D48_0D48_0D48,
    0x0D48_0D48_0D48_0D48_0D48_0D48_0D48_0D48_0D48_0D48_0D48_0D48_0D48_0D48_0D48_0D48,
    0x0D48_0D48_0D48_0D48_0D48_0D48_0D48_0D48_0D48_0D48_0D48_0D48_0D48_0D48_0D48_0D48,
    0x0D48_0D48_0D48_0D48_0D48_0D48_0D48_0D48_0D48_0D48_0D48_0D48_0D48_0D48_0D48_0D48,
    0x0D48_0D48_0D48_0D48_0D48_0D48_0D48_0D48_0D48_0D48_0D48_0D48_0D48_0D48_0D48_0D48,
    0x0D48_0D48_0D48_0D48_0D48_0D48_0D48_0D48_0D48_0D48_0D48_0D48_0D48_0D48_0D48_0D48,
    0x0D48_0D48_0D48_0D48_0D48_0D48_0D48_0D48_0D48_0D48_0D48_0D48_0D48_0D48_0D48_0D48,
    0x0D48_0D48_0D48_0D48_0D48_0D48_0D48_0D48_0D48_0D48_0D48_0D48_0D48_0D48_0D48_0D48,
    0x0D48_0D48_0D48_0D48_0D50_0D50_0D50_0D50_0D50_0D50_0D50_0D50_0D50_0D50_0D50_0D50,
    0x0D50_0D50_0D50_0D50_0D50_0D50_0D50_0D50_0D50_0D50_0D50_0D50_0D50_0D50_0D50_0D50,
    0x0D50_0D50_0D50_0D50_0D50_0D50_0D50_0D50_0D50_0D50_0D50_0D50_0D50_0D50_0D50_0D50,
    0x0D50_0D50_0D50_0D50_0D50_0D50_0D50_0D50_0D50_0D50_0D50_0D50_0D50_0D50_0D50_0D50,
    0x0D50_0D50_0D50_0D50_0D50_0D50_0D50_0D50_0D50_0D50_0D50_0D50_0D50_0D50_0D50_0D50,
    0x0D50_0D50_0D50_0D50_0D50_0D50_0D50_0D50_0D50_0D50_0D50_0D50_0D50_0D50_0D50_0D50,
    0x0D50_0D50_0D50_0D50_0D50_0D50_0D50_0D50_0D50_0D50_0D50_0D50_0D50_0D50_0D50_0D50,
    0x0D50_0D50_0D50_0D50_0D50_0D50_0D50_0D50_0D50_0D50_0D50_0D50_0D58_0D58_0D58_0D58,
    0x0D58_0D58_0D58_0D60_0D68_0D68_0D72_0D78_0D78_0D78_0D78_0D78_0D78_0D78_0D78_0D78,
    0x0D78_0D78_0D78_0D78_0D78_0D78_0D78_0D78_0D78_0D78_0D78_0D78_0D78_0D78_0D78_0D78,
    0x0D78_0D78_0D78_0D78_0D78_0D78_0D78_0D78_0D78_0D78_0D78_0D78_0D78_0D78_0D78_0D78,
    0x0D78_0D78_0D78_0D78_0D78_0D78_0D78_0D78_0D78_0D78_0D78_0D78_0D78_0D78_0D78_0D78,
    0x0D78_0D78_0D78_0D78_0D78_0D78_0D78_0D78_0D78_0D78_0D78_0D78_0D78_0D78_0D78_0D78,
    0x0D78_0D78_0D78_0D78_0D78_0D78_0D78_0D78_0D78_0D78_0D78_0D78_0D78_0D78_0D78_0D78,
    0x0D78_0D78_0D78_0D78_0D78_0D78_0D78_0D78_0D78_0D78_0D78_0D78_0D78_0D78_0D78_0D78,
    0x0D78_0D78_0D78_0D78_0D78_0D78_0D78_0D78_0D78_0D78_0D78_0D78_0D78_0D78_0D78_0D78,
    0x0D78_0D78_0D78_0D78_0D78_0D78_0D78_0D80_0D88_0D90_0D90_0D90_0D90_0D90_0D90_0D90,
    0x0D90_0D90_0D90_0D90_0D90_0D90_0D90_0D90_0D90_0D90_0D90_0D90_0D90_0D90_0D90_0D90,
    0x0D90_0D90_0D90_0D90_0D90_0D90_0D90_0D90_0D90_0D90_0D90_0D90_0D90_0D90_0D90_0D90,
    0x0D90_0D90_0D90_0D90_0D90_0D90_0D90_0D90_0D90_0D90_0D90_0D90_0D90_0D90_0D90_0D90,
    0x0D90_0D90_0D90_0D90_0D90_0D90_0D90_0D90_0D90_0D90_0D90_0D90_0D90_0D90_0D90_0D90,
    0x0D90_0D90_0D90_0D90_0D90_0D90_0D90_0D90_0D90_0D90_0D90_0D90_0D90_0D90_0D90_0D90,
    0x0D90_0D90_0D90_0D90_0D90_0D90_0D90_0D90_0D90_0D90_0D90_0D90_0D90_0D90_0D90_0D90,
    0x0D90_0D90_0D90_0D90_0D90_0D90_0D90_0D90_0D90_0D90_0D90_0D90_0D90_0D90_0D90_0D90,
    0x0D90_0D90_0D90_0D90_0D90_0D90_0D90_0D90_0D90_0D90_0D90_0D90_0D90_0D90_0D90_0D90,
    0x0D90_0D90_0D90_0D90_0D90_0D90_0D90_0D98_0D98_0DA2_0DA8_0DB0_0DB0_0DB0_0DB0_0DB0,
    0x0DB0_0DB0_0DB0_0DB0_0DB0_0DB0_0DB0_0DB0_0DB0_0DB0_0DB0_0DB0_0DB0_0DB0_0DB0_0DB0,
    0x0DB0_0DB0_0DB0_0DB0_0DB0_0DB0_0DB0_0DB0_0DB0_0DB0_0DB0_0DB0_0DB0_0DB0_0DB0_0DB0,
    0x0DB0_0DB0_0DB0_0DB0_0DB0_0DB0_0DB0_0DB0_0DB0_0DB0_0DB0_0DB0_0DB0_0DB0_0DB0_0DB0,
    0x0DB0_0DB0_0DB0_0DB0_0DB0_0DB0_0DB0_0DB0_0DB0_0DB0_0DB0_0DB0_0DB0_0DB0_0DB0_0DB0,
    0x0DB0_0DB0_0DB0_0DB0_0DB0_0DB0_0DB0_0DB0_0DB0_0DB0_0DB0_0DB0_0DB0_0DB0_0DB0_0DB0,
    0x0DB1_0DB8_0DB8_0DB8_0DB8_0DB8_0DB8_0DB8_0DB8_0DB8_0DB8_0DB8_0DB8_0DB8_0DB8_0DB8,
    0x0DB8_0DB8_0DB8_0DB8_0DB8_0DB8_0DB8_0DB8_0DB8_0DB8_0DB8_0DB8_0DB8_0DB8_0DB8_0DB8,
    0x0DB8_0DB8_0DB8_0DB8_0DB8_0DB8_0DB8_0DB8_0DB8_0DB8_0DB8_0DB8_0DB8_0DB8_0DB8_0DB8,
    0x0DB8_0DB8_0DB8_0DB8_0DB8_0DB8_0DB8_0DB8_0DB8_0DB8_0DB8_0DB8_0DB8_0DB8_0DB8_0DB8,
    0x0DB8_0DB8_0DB8_0DB8_0DB8_0DB8_0DB8_0DB8_0DB8_0DB8_0DB8_0DB8_0DB8_0DB8_0DB8_0DB8,
    0x0DB8_0DB8_0DB8_0DB8_0DB8_0DB8_0DB8_0DB8_0DB8_0DB8_0DB8_0DB8_0DB8_0DB8_0DB8_0DB8,
    0x0DB8_0DB8_0DB8_0DB8_0DB8_0DB8_0DB8_0DB8_0DB8_0DB8_0DB8_0DB8_0DB8_0DB8_0DB8_0DB8,
    0x0DB8_0DB8_0DB8_0DB8_0DB8_0DB8_0DB8_0DB8_0DB8_0DB8_0DB8_0DB8_0DB8_0DB8_0DB8_0DB8,
    0x0DB9_0DC0_0DC0_0DC0_0DC0_0DC0_0DC0_0DC0_0DC0_0DC0_0DC0_0DC0_0DC0_0DC0_0DC0_0DC0,
    0x0DC0_0DC0_0DC0_0DC0_0DC0_0DC0_0DC0_0DC0_0DC0_0DC0_0DC0_0DC0_0DC0_0DC0_0DC0_0DC0,
    0x0DC0_0DC0_0DC0_0DC0_0DC0_0DC0_0DC0_0DC0_0DC0_0DC1_0DC9_0DD0_0DD0_0DD0_0DD0_0DD0,
    0x0DD0_0DD0_0DD0_0DD0_0DD0_0DD0_0DD0_0DD0_0DD0_0DD0_0DD0_0DD0_0DD0_0DD0_0DD0_0DD0,
    0x0DD0_0DD0_0DD0_0DD0_0DD0_0DD0_0DD0_0DD0_0DD0_0DD0_0DD0_0DD0_0DD0_0DD0_0DD0_0DD0,
    0x0DD0_0DD0_0DD0_0DD0_0DD0_0DD0_0DD0_0DD0_0DD0_0DD0_0DD1_0DD4_0DD4_0DD4_0DD4_0DD4,
    0x0DD4_0DD4_0DD4_0DD4_0DD4_0DD4_0DD4_0DD4_0DD4_0DD4_0DD4_0DD4_0DD4_0DD4_0DD4_0DD4,
    0x0DD4_0DD4_0DD4_0DD4_0DD4_0DD4_0DD4_0DD4_0DD4_0DD4_0DD4_0DD4_0DD4_0DD4_0DD4_0DD4,
    0x0DD4_0DD4_0DD4_0DD4_0DD4_0DD4_0DD4_0DD4_0DD4_0DD4_0DD4_0DD4_0DD4_0DD4_0DD4_0DD4,
    0x0DD4_0DD4_0DDC_0DDC_0DDC_0DDC_0DDC_0DDC_0DDC_0DDC_0DDC_0DDC_0DE4_0DE4_0DE4_0DE4,
    0x0DE4_0DEC_0DEC_0DEC_0DEC_0DEC_0DF4_0DF4_0DF4_0DF4_0DF4_0DFC_0DFC_0DFC_0DFC_0DFC,
    0x0DFC_0DFC_0DFC_0DFC_0DFC_0DFC_0DFC_0DFC_0E04_0E04_0E04_0E04_0E04_0E04_0E04_0E04,
    0x0E04_0E04_0E0C_0E0C_0E14_0E1F_0E24_0E2F_0E34_0E34_0E34_0E34_0E34_0E34_0E34_0E34,
    0x0E3C_0E3C_0E3C_0E3C_0E3C_0E3C_0E3C_0E3C_0E3C_0E3C_0E3C_0E3C_0E3C_0E3C_0E3C_0E3C,
    0x0E3C_0E3C_0E44_0E44_0E44_0E44_0E44_0E44_0E44_0E44_0E44_0E44_0E4C_0E4C_0E4C_0E4C,
    0x0E4C_0E54_0E54_0E54_0E54_0E54_0E5C_0E5C_0E5C_0E5C_0E5C_0E64_0E64_0E64_0E64_0E64,
    0x0E64_0E64_0E64_0E64_0E64_0E64_0E64_0E64_0E6C_0E6C_0E6C_0E6C_0E6C_0E6C_0E6C_0E6C,
    0x0E6C_0E6C_0E6C_0E6C_0E6C_0E6C_0E6C_0E6C_0E6C_0E6C_0E6C_0E6C_0E6C_0E6C_0E6C_0E6C,
    0x0E6C_0E6C_0E6C_0E6C_0E6C_0E6C_0E6C_0E6C_0E6C_0E6C_0E6C_0E6C_0E6C_0E6C_0E6C_0E6C,
    0x0E6C_0E6C_0E6C_0E6C_0E6C_0E6C_0E6C_0E6C_0E6C_0E6C_0E6C_0E6C_0E6C_0E6C_0E6C_0E6C,
    0x0E6C_0E6C_0E6C_0E6C_0E6C_0E6C_0E6C_0E6C_0E6C_0E6C_0E6C_0E6C_0E6C_0E6C_0E6C_0E6C,
    0x0E6C_0E6C_0E6C_0E6C_0E6C_0E6C_0E6C_0E6C_0E6C_0E6C_0E6C_0E6C_0E6C_0E6C_0E6C_0E6C,
    0x0E6C_0E6C_0E6C_0E6C_0E6C_0E6C_0E6C_0E6C_0E6C_0E6C_0E6C_0E6C_0E6C_0E6C_0E6C_0E6C,
    0x0E6C_0E6C_0E6C_0E6C_0E6C_0E6C_0E74_0E74_0E74_0E74_0E74_0E74_0E74_0E74_0E74_0E74,
    0x0E74_0E74_0E74_0E74_0E74_0E74_0E74_0E74_0E74_0E74_0E74_0E74_0E74_0E74_0E74_0E74,
    0x0E74_0E74_0E74_0E74_0E74_0E74_0E74_0E74_0E74_0E74_0E74_0E74_0E74_0E74_0E74_0E74,
    0x0E74_0E74_0E74_0E74_0E74_0E74_0E74_0E74_0E74_0E74_0E74_0E74_0E74_0E74_0E74_0E74,
    0x0E74_0E74_0E74_0E74_0E74_0E74_0E74_0E74_0E74_0E74_0E74_0E74_0E74_0E74_0E74_0E74,
    0x0E74_0E74_0E74_0E74_0E74_0E74_0E74_0E74_0E74_0E74_0E74_0E74_0E74_0E74_0E74_0E74,
    0x0E74_0E74_0E74_0E74_0E74_0E74_0E74_0E74_0E74_0E74_0E74_0E74_0E74_0E74_0E74_0E74,
    0x0E74_0E74_0E74_0E74_0E74_0E74_0E74_0E74_0E74_0E74_0E74_0E74_0E74_0E74_0E74_0E74,
    0x0E74_0E74_0E74_0E74_0E74_0E74_0E74_0E74_0E74_0E74_0E74_0E74_0E74_0E74_0E74_0E74,
    0x0E74_0E74_0E74_0E74_0E74_0E74_0E74_0E74_0E74_0E74_0E74_0E74_0E74_0E74_0E74_0E74,
    0x0E74_0E74_0E74_0E74_0E74_0E74_0E74_0E74_0E74_0E74_0E74_0E74_0E74_0E74_0E74_0E74,
    0x0E74_0E74_0E74_0E74_0E74_0E74_0E74_0E74_0E74_0E74_0E74_0E74_0E74_0E74_0E74_0E74,
    0x0E74_0E74_0E74_0E74_0E74_0E74_0E74_0E74_0E74_0E74_0E74_0E74_0E74_0E74_0E74_0E74,
    0x0E74_0E74_0E74_0E74_0E74_0E74_0E74_0E74_0E74_0E74_0E74_0E75_0E78_0E78_0E78_0E78,
    0x0E78_0E78_0E78_0E78_0E78_0E78_0E78_0E80_0E80_0E88_0E88_0E90_0E90_0E98_0E98_0EA0,
    0x0EA0_0EA0_0EA0_0EA8_0EA8_0EA8_0EA8_0EA8_0EA8_0EA8_0EA8_0EA8_0EA8_0EA8_0EA8_0EA8,
    0x0EA8_0EA8_0EA8_0EA8_0EA8_0EA8_0EA8_0EA8_0EA8_0EA8_0EA8_0EA8_0EA8_0EA8_0EA8_0EA8,
    0x0EA8_0EA8_0EA8_0EA8_0EA8_0EA8_0EA8_0EA8_0EA8_0EA8_0EA8_0EA8_0EB0_0EB0_0EB8_0EB8,
    0x0EB8_0EC0_0EC8_0EC8_0ED0_0ED0_0ED0_0ED0_0ED0_0ED0_0ED0_0ED0_0ED0_0ED0_0ED0_0ED0,
    0x0ED0_0ED0_0ED0_0ED0_0ED0_0ED0_0ED0_0ED0_0ED0_0ED0_0ED0_0ED0_0ED0_0ED0_0ED0_0ED0,
    0x0ED0_0ED0_0ED0_0ED0_0ED0_0ED0_0ED0_0ED0_0ED0_0ED0_0ED0_0ED0_0ED0_0ED0_0ED0_0ED0,
    0x0ED0_0ED0_0ED0_0ED0_0ED0_0ED0_0ED0_0ED0_0ED0_0ED0_0ED0_0ED0_0ED0_0ED0_0ED0_0ED0,
    0x0ED0_0ED0_0ED0_0ED0_0ED0_0ED0_0ED0_0ED0_0ED0_0ED0_0ED0_0ED0_0ED0_0ED0_0ED0_0ED0,
    0x0ED0_0ED0_0ED0_0ED0_0ED0_0ED0_0ED0_0ED0_0ED0_0ED0_0ED0_0ED0_0ED0_0ED0_0ED0_0ED0,
    0x0ED0_0ED0_0ED0_0ED0_0ED0_0ED0_0ED0_0ED0_0ED0_0ED0_0ED0_0ED0_0ED0_0ED0_0ED0_0ED0,
    0x0ED0_0ED0_0ED0_0ED0_0ED0_0ED0_0ED0_0ED0_0ED0_0ED0_0ED0_0ED0_0ED0_0ED0_0ED0_0ED0,
    0x0ED0_0ED0_0ED0_0ED0_0ED0_0ED0_0ED0_0ED0_0ED0_0ED0_0ED0_0ED0_0ED0_0ED0_0ED0_0ED0,
    0x0ED0_0ED0_0ED0_0ED0_0ED0_0ED0_0ED0_0ED0_0ED0_0ED0_0ED0_0ED0_0ED0_0ED0_0ED0_0ED0,
    0x0ED0_0ED0_0ED0_0ED0_0ED0_0ED0_0ED0_0ED0_0ED0_0ED0_0ED0_0ED0_0ED0_0ED0_0ED0_0ED0,
    0x0ED0_0ED0_0ED0_0ED0_0ED0_0ED0_0ED0_0ED0_0ED0_0ED0_0ED0_0ED0_0ED0_0ED0_0ED0_0ED0,
    0x0ED0_0ED0_0ED0_0ED0_0ED0_0ED0_0ED0_0ED0_0ED0_0ED0_0ED0_0ED0_0ED0_0ED0_0ED0_0ED0,
    0x0ED0_0ED0_0ED0_0ED0_0ED0_0ED0_0ED0_0ED0_0ED0_0ED0_0ED0_0ED0_0ED0_0ED0_0ED0_0ED0,
    0x0ED0_0ED0_0ED0_0ED0_0ED0_0ED0_0ED0_0ED0_0ED0_0ED0_0ED0_0ED0_0ED0_0ED1_0ED5_0ED9,
    0x0EDC_0EDD_0EE1_0EE5_0EE9_0EED_0EF1_0EF5_0EF9_0EFD_0F01_0F05_0F08_0F09_0F0D_0F11,
    0x0F15_0F19_0F1D_0F21_0F25_0F29_0F2D_0F31_0F35_0F39_0F3D_0F41_0F45_0F49_0F4D_0F50,
    0x0F51_0F55_0F59_0F5D_0F61_0F65_0F69_0F6D_0F71_0F75_0F79_0F7D_0F81_0F85_0F89_0F8D,
    0x0F91_0F95_0F99_0F9D_0FA1_0FA5_0FA9_0FAD_0FB1_0FB5_0FB9_0FBD_0FC0_0FC0_0FC0_0FC0,
    0x0FC0_0FC0_0FC0_0FC0_0FC0_0FC0_0FC0_0FC0_0FC0_0FC1_0FC4_0FC4_0FC4_0FC4_0FC4_0FC4,
    0x0FC4_0FC4_0FC4_0FC4_0FC4_0FC4_0FC4_0FC4_0FC4_0FC4_0FC4_0FC4_0FC4_0FC4_0FC4_0FC4,
    0x0FC4_0FC4_0FC4_0FC4_0FC4_0FC4_0FC4_0FC4_0FC4_0FC4_0FC4_0FC4_0FC5_0FC9_0FCD_0FD1,
    0x0FD5_0FD9_0FDD_0FE1_0FE5_0FE9_0FED_0FF1_0FF5_0FF9_0FFD_1001_1005_1009_100D_1011,
    0x1015_1019_101D_1021_1025_1029_102D_1031_1035_1039_103D_1041_1045_1049_104D_1051,
    0x1055_1058_1058_1058_1058_1058_1058_1058_1058_1058_1058_1058_1058_1058_1058_1058,
    0x1058_1058_1058_1058_1058_1058_1058_1058_1058_1058_1058_1058_1058_1058_1058_1058,
    0x1058_1058_1058_1058_1058_1058_1058_1058_1058_1058_1058_1058_1058_1058_1058_1058,
    0x1058_1058_1058_1058_1058_1058_1058_1058_1058_1058_1058_1058_1058_1058_1058_1058,
    0x1058_1058_1058_1060_1068_1070_1078_1080_1088_1090_109A_10A2_10A8_10B0_10B8_10C0,
    0x10C8_10D0_10D8_10E0_10E8_10F0_10FA_1102_110A_1112_1118_1120_1128_1130_113A_1142,
    0x1148_1150_1158_1160_1168_1170_1178_1180_1188_1190_1198_11A0_11A8_11B0_11B8_11C0,
    0x11CA_11D2_11D8_11E0_11E8_11F0_11F8_1200_1208_1210_121A_1222_1228_1230_1238_1240,
    0x1248_1250_1258_1260_1268_1270_1278_1280_1288_1290_1298_12A0_12A8_12B0_12BA_12C2,
    0x12CA_12D2_12DA_12E2_12EA_12F2_12F8_1300_1308_1310_1318_1320_1328_1330_133A_1342,
    0x1348_1350_1358_1360_1368_1370_137A_1382_138A_1392_139A_13A2_13A8_13B0_13B8_13C0,
    0x13C8_13D0_13D8_13E0_13E8_13F0_13F8_1400_1408_1410_141A_1422_142A_1432_1438_1440,
    0x1448_1450_1458_1460_1468_1470_1478_1480_1488_1490_1498_14A0_14A8_14B0_14B8_14C0,
    0x14C8_14D0_14D8_14E0_14E8_14F0_14F8_1500_1508_1510_1518_1520_1529_1532_1538_1538,
    0x1538_1538_1538_1540_1548_1550_155A_1562_156A_1572_157A_1582_158A_1592_159A_15A2,
    0x15AA_15B2_15BA_15C2_15CA_15D2_15DA_15E2_15EA_15F2_15F8_1600_1608_1610_1618_1620,
    0x162A_1632_163A_1642_164A_1652_165A_1662_166A_1672_1678_1680_1688_1690_1698_16A0,
    0x16A8_16B0_16BA_16C2_16CA_16D2_16DA_16E2_16EA_16F2_16FA_1702_170A_1712_171A_1722,
    0x172A_1732_173A_1742_174A_1752_1758_1760_1768_1770_177A_1782_178A_1792_179A_17A2,
    0x17AA_17B2_17BA_17C2_17C8_17D0_17D8_17E0_17E8_17F0_17F8_1800_1808_1808_1808_1808,
    0x1808_1808_1808_1808_1810_181A_1822_182A_1832_183A_1842_1848_1850_185A_1862_186A,
    0x1872_187A_1882_1888_1890_189A_18A2_18AA_18B2_18B8_18B8_18B8_18C0_18CA_18D2_18DA,
    0x18E2_18E8_18E8_18E8_18F0_18FA_1902_190A_1912_191A_1922_1928_1930_193A_1942_194A,
    0x1952_195A_1962_1968_1970_197A_1982_198A_1992_199A_19A2_19A8_19B0_19BA_19C2_19CA,
    0x19D2_19DA_19E2_19E8_19F0_19FA_1A02_1A0A_1A12_1A18_1A18_1A18_1A20_1A2A_1A32_1A3A,
    0x1A42_1A48_1A48_1A48_1A50_1A5A_1A62_1A6A_1A72_1A7A_1A82_1A88_1A88_1A90_1A92_1A98,
    0x1A9A_1AA0_1AA2_1AA8_1AB0_1ABA_1AC2_1ACA_1AD2_1ADA_1AE2_1AE8_1AF0_1AFA_1B02_1B0A,
    0x1B12_1B1A_1B22_1B28_1B32_1B34_1B3E_1B40_1B4A_1B4C_1B56_1B58_1B62_1B64_1B6E_1B70,
    0x1B7A_1B7C_1B7C_1B7E_1B86_1B8E_1B96_1B9E_1BA6_1BAE_1BB6_1BBE_1BC6_1BCE_1BD6_1BDE,
    0x1BE6_1BEE_1BF6_1BFE_1C06_1C0E_1C16_1C1E_1C26_1C2E_1C36_1C3E_1C46_1C4E_1C56_1C5E,
    0x1C66_1C6E_1C76_1C7E_1C86_1C8E_1C96_1C9E_1CA6_1CAE_1CB6_1CBE_1CC6_1CCE_1CD6_1CDE,
    0x1CE6_1CEE_1CF6_1CFC_1D04_1D0E_1D14_1D1E_1D24_1D24_1D2E_1D34_1D3C_1D44_1D4E_1D50,
    0x1D59_1D60_1D65_1D6D_1D76_1D7E_1D84_1D8E_1D94_1D94_1D9E_1DA4_1DAE_1DB0_1DBA_1DBC,
    0x1DC6_1DCE_1DD6_1DDC_1DE4_1DEE_1DF6_1DF8_1DF8_1DF8_1E02_1E08_1E10_1E18_1E22_1E24,
    0x1E26_1E2E_1E36_1E3C_1E44_1E4E_1E56_1E58_1E60_1E68_1E72_1E78_1E80_1E88_1E92_1E94,
    0x1E9E_1EA6_1EA8_1EAC_1EAC_1EAE_1EB4_1EBE_1EC4_1EC4_1ECE_1ED4_1EDE_1EE0_1EEA_1EEC,
    0x1EF6_1EF9_1F00_1F00_1F02_1F06_1F09_1F0D_1F11_1F15_1F19_1F1D_1F21_1F25_1F29_1F2C,
    0x1F2C_1F2C_1F2C_1F2C_1F2C_1F2D_1F30_1F30_1F30_1F30_1F30_1F31_1F38_1F38_1F38_1F38,
    0x1F38_1F38_1F38_1F38_1F38_1F38_1F38_1F38_1F39_1F3D_1F45_1F50_1F50_1F50_1F50_1F50,
    0x1F50_1F50_1F50_1F51_1F54_1F54_1F54_1F55_1F5D_1F68_1F69_1F71_1F7C_1F7C_1F7C_1F7C,
    0x1F7D_1F84_1F85_1F8C_1F8C_1F8C_1F8C_1F8C_1F8C_1F8C_1F8C_1F8D_1F95_1F9D_1FA4_1FA4,
    0x1FA4_1FA4_1FA4_1FA4_1FA4_1FA4_1FA4_1FA4_1FA4_1FA4_1FA4_1FA5_1FB4_1FB4_1FB4_1FB4,
    0x1FB4_1FB4_1FB4_1FB5_1FB8_1FB8_1FB8_1FB8_1FB8_1FB8_1FB8_1FB8_1FB8_1FB8_1FB8_1FB8,
    0x1FB8_1FB8_1FB8_1FB8_1FB9_1FBD_1FC0_1FC0_1FC1_1FC5_1FC9_1FCD_1FD1_1FD5_1FD9_1FDD,
    0x1FE1_1FE5_1FE9_1FED_1FF1_1FF5_1FF9_1FFD_2001_2005_2009_200D_2011_2015_2019_201D,
    0x2021_2025_2029_202C_202D_2031_2035_2039_203D_2041_2045_2049_204D_2051_2055_2059,
    0x205D_2060_2060_2060_2060_2060_2060_2060_2060_2060_2060_2060_2061_2068_2068_2068,
    0x2068_2068_2068_2068_2068_2068_2068_2068_2068_2068_2068_2068_2068_2068_2068_2068,
    0x2068_2068_2068_2068_2068_2068_2068_2068_2068_2068_2068_2068_2068_2068_2068_2068,
    0x2068_2068_2068_2068_2068_2068_2068_2068_2068_2068_2068_2068_2068_2068_2068_2068,
    0x2068_2068_2068_2068_2068_2068_2068_2068_2068_2068_2068_2068_2068_2068_2068_2068,
    0x2068_2068_2068_2068_2068_2068_2068_2068_2068_2068_2068_2068_2068_2068_2068_2068,
    0x2068_2068_2068_2068_2068_2069_2075_2081_2085_208C_208D_2099_20A5_20A8_20A9_20B1,
    0x20B5_20B9_20BD_20C1_20C5_20C9_20CD_20D1_20D5_20D8_20D9_20DD_20E4_20E4_20E5_20E9,
    0x20ED_20F1_20F5_20F8_20F8_20F9_2101_210D_2114_2115_2118_2118_211C_211D_2120_2120,
    0x2126_2129_212D_2130_2131_2135_2139_213C_213D_2141_2145_2149_214D_2151_2155_2158,
    0x2159_2165_2169_216D_2171_2175_2178_2178_2178_2178_2179_217D_2181_2185_2189_218C,
    0x218C_218C_218C_218C_218C_218D_2199_21A5_21B5_21C1_21CD_21D9_21E5_21F1_21FD_2209,
    0x2215_2221_222D_2239_2245_224D_2251_2259_2265_226D_2271_2279_2285_2295_229D_22A1,
    0x22A9_22B5_22B9_22BD_22C1_22C5_22C9_22D1_22DD_22E5_22E9_22F1_22FD_230D_2315_2319,
    0x2321_232D_2331_2335_2339_233C_233C_233C_233C_233C_233C_233C_233C_233C_233D_2348,
    0x2348_2348_2348_2348_2348_2348_2348_2348_2348_2348_2348_2348_2348_2348_2348_2348,
    0x2350_2358_2358_2358_2358_2358_2358_2358_2358_2358_2358_2358_2358_2358_2358_2358,
    0x2358_2358_2358_2358_2360_2360_2360_2360_2360_2360_2360_2360_2360_2360_2360_2360,
    0x2360_2360_2360_2360_2360_2360_2360_2360_2360_2360_2360_2360_2360_2360_2360_2360,
    0x2360_2360_2360_2368_2370_2378_2378_2378_2378_2378_2378_2378_2378_2378_2378_2378,
    0x2378_2378_2378_2378_2378_2378_2378_2378_2378_2378_2378_2378_2378_2378_2378_2378,
    0x2378_2378_2378_2378_2378_2378_2378_2378_2378_2378_2378_2378_2378_2378_2378_2378,
    0x2378_2378_2378_2378_2378_2378_2378_2378_2378_2378_2378_2380_2380_2380_2380_2380,
    0x2388_2388_2388_2390_2390_2390_2390_2390_2390_2390_2390_2390_2390_2390_2390_2390,
    0x2390_2390_2390_2390_2390_2390_2390_2390_2390_2390_2390_2398_2398_23A0_23A0_23A0,
    0x23A0_23A0_23A1_23A9_23B4_23B5_23BD_23C8_23C8_23C8_23C8_23C8_23C8_23C8_23C8_23C8,
    0x23C8_23C8_23C8_23C8_23C8_23C8_23C8_23C8_23D0_23D0_23D0_23D8_23D8_23D8_23E0_23E0,
    0x23E8_23E8_23E8_23E8_23E8_23E8_23E8_23E8_23E8_23E8_23E8_23E8_23E8_23E8_23E8_23E8,
    0x23E8_23E8_23E8_23E8_23E8_23E8_23E8_23F0_23F0_23F8_23F8_23F8_23F8_23F8_23F8_23F8,
    0x23F8_23F8_23F8_23F8_2400_2408_2410_2418_2420_2420_2420_2428_2430_2430_2430_2438,
    0x2440_2440_2440_2440_2440_2440_2440_2448_2450_2450_2450_2458_2460_2460_2460_2468,
    0x2470_2470_2470_2470_2470_2470_2470_2470_2470_2470_2470_2470_2470_2470_2470_2470,
    0x2470_2470_2470_2470_2470_2470_2470_2470_2470_2470_2470_2470_2470_2470_2470_2470,
    0x2470_2470_2470_2478_2480_2488_2490_2490_2490_2490_2490_2490_2490_2490_2490_2490,
    0x2490_2490_2490_2490_2490_2490_2490_2490_2490_2490_2490_2490_2490_2490_2490_2490,
    0x2490_2490_2490_2490_2490_2490_2490_2490_2490_2490_2490_2490_2490_2490_2490_2490,
    0x2490_2490_2490_2490_2490_2490_2490_2498_24A0_24A8_24B0_24B0_24B0_24B0_24B0_24B0,
    0x24B0_24B8_24C0_24C8_24D0_24D0_24D0_24D0_24D0_24D0_24D0_24D0_24D0_24D0_24D0_24D0,
    0x24D0_24D0_24D0_24D0_24D0_24D0_24D0_24D0_24D0_24D0_24D0_24D0_24D0_24D0_24D0_24D0,
    0x24D0_24D0_24D0_24D0_24D0_24D0_24D0_24D0_24D0_24D0_24D0_24D0_24D0_24D0_24D0_24D0,
    0x24D0_24D0_24D0_24D0_24D0_24D0_24D0_24D0_24D0_24D0_24D0_24D0_24D0_24D0_24D0_24D0,
    0x24D0_24D4_24D8_24D8_24D8_24D8_24D8_24D8_24D8_24D8_24D8_24D8_24D8_24D8_24D8_24D8,
    0x24D8_24D8_24D8_24D8_24D8_24D8_24D8_24D8_24D8_24D8_24D8_24D8_24D8_24D8_24D8_24D8,
    0x24D8_24D8_24D8_24D8_24D8_24D8_24D8_24D8_24D8_24D8_24D8_24D8_24D8_24D8_24D8_24D8,
    0x24D8_24D8_24D8_24D8_24D8_24D8_24D8_24D8_24D8_24D8_24D8_24D8_24D8_24D8_24D8_24D8,
    0x24D8_24D8_24D8_24D8_24D8_24D8_24D8_24D8_24D8_24D8_24D8_24D8_24D8_24D8_24D8_24D8,
    0x24D8_24D8_24D8_24D8_24D8_24D8_24D8_24D8_24D8_24D8_24D8_24D8_24D8_24D8_24D8_24D8,
    0x24D8_24D8_24D8_24D8_24D8_24D8_24D8_24D8_24D8_24D8_24D8_24D8_24D8_24D8_24D8_24D8,
    0x24D8_24D8_24D8_24D8_24D8_24D8_24D8_24D8_24D8_24D8_24D8_24D8_24D8_24D8_24D8_24D8,
    0x24D8_24D8_24D8_24D8_24D8_24D8_24D8_24D8_24D8_24D8_24D8_24D8_24D8_24D8_24D8_24D8,
    0x24D8_24D8_24D8_24D8_24D8_24D8_24D8_24D8_24D8_24D8_24D8_24D8_24D8_24D8_24D8_24D8,
    0x24D8_24D8_24D8_24D8_24D8_24D8_24D8_24D8_24D8_24D8_24D8_24D8_24D8_24D8_24D8_24D8,
    0x24D8_24D8_24D8_24D8_24D8_24D8_24D8_24D8_24D8_24D8_24D8_24D8_24D8_24D8_24D8_24D8,
    0x24D8_24D8_24D8_24D8_24D8_24D8_24D8_24D8_24D8_24D8_24D8_24D8_24D8_24D8_24D8_24D8,
    0x24D8_24D8_24D8_24D8_24D8_24D8_24D8_24D8_24D8_24D8_24D8_24D8_24D8_24D8_24D8_24D8,
    0x24D8_24D8_24D8_24D8_24D8_24D8_24D8_24D8_24D8_24D8_24D8_24D8_24D8_24D8_24D8_24D8,
    0x24D8_24D8_24D8_24D8_24D8_24D8_24D8_24D8_24D8_24D8_24D8_24D8_24D8_24D8_24D8_24D8,
    0x24D8_24D8_24D8_24D8_24D8_24D8_24D8_24D8_24D8_24D8_24D8_24D8_24D8_24D8_24D8_24D8,
    0x24D8_24D8_24D8_24D8_24D8_24D8_24D8_24D8_24D8_24D8_24D8_24D8_24D8_24D8_24D8_24D8,
    0x24D8_24D8_24D8_24D8_24D8_24D8_24D8_24D8_24D8_24D8_24D8_24D8_24D8_24D8_24D8_24D8,
    0x24D8_24D8_24D8_24D8_24D8_24D8_24D8_24D8_24D9_24DD_24E1_24E5_24E9_24ED_24F1_24F5,
    0x24F9_24FD_2505_250D_2515_251D_2525_252D_2535_253D_2545_254D_2555_2561_256D_2579,
    0x2585_2591_259D_25A9_25B5_25C1_25D1_25E1_25F1_2601_2611_2621_2631_2641_2651_2661,
    0x2671_2679_2681_2689_2691_2699_26A1_26A9_26B1_26B9_26C5_26D1_26DD_26E9_26F5_2701,
    0x270D_2719_2725_2731_273D_2749_2755_2761_276D_2779_2785_2791_279D_27A9_27B5_27C1,
    0x27CD_27D9_27E5_27F1_27FD_2809_2815_2821_282D_2839_2845_2851_285D_2869_2875_2879,
    0x287D_2881_2885_2889_288D_2891_2895_2899_289D_28A1_28A5_28A9_28AD_28B1_28B5_28B9,
    0x28BD_28C1_28C5_28C9_28CD_28D1_28D5_28D9_28DD_28E1_28E5_28E9_28ED_28F1_28F5_28F9,
    0x28FD_2901_2905_2909_290D_2911_2915_2919_291D_2921_2925_2929_292D_2931_2935_2939,
    0x293D_2941_2945_2948_2948_2948_2948_2948_2948_2948_2948_2948_2948_2948_2948_2948,
    0x2948_2948_2948_2948_2948_2948_2948_2948_2948_2948_2948_2948_2948_2948_2948_2948,
    0x2948_2948_2948_2948_2948_2949_2958_2958_2958_2958_2958_2958_2958_2958_2958_2958,
    0x2958_2958_2958_2958_2958_2958_2958_2958_2958_2958_2958_2958_2958_2958_2958_2958,
    0x2958_2958_2958_2958_2958_2958_2958_2958_2958_2958_2958_2958_2958_2958_2958_2958,
    0x2958_2958_2958_2958_2958_2958_2958_2958_2958_2958_2958_2958_2958_2958_2958_2958,
    0x2958_2958_2958_2958_2958_2958_2958_2958_2958_2958_2958_2958_2958_2958_2958_2958,
    0x2958_2958_2958_2958_2958_2958_2958_2958_2958_2958_2958_2958_2958_2958_2958_2958,
    0x2958_2958_2958_2958_2958_2958_2958_2958_2958_2958_2958_2958_2958_2959_2965_296D,
    0x2978_2978_2978_2978_2978_2978_2978_2978_2978_2978_2978_2978_2978_2978_2978_2978,
    0x2978_2978_2978_2978_2978_2978_2978_2978_2978_2978_2978_2978_2978_2978_2978_2978,
    0x2978_2978_2978_2978_2978_2978_2978_2978_2978_2978_2978_2978_2978_2978_2978_2978,
    0x2978_2978_2978_2978_2978_2978_2978_2978_2978_2978_2978_2978_2978_2978_2978_2978,
    0x2978_2978_2978_2978_2978_2978_2978_2978_2978_2978_2978_2978_2978_2978_2978_2978,
    0x2978_2978_2978_2978_2978_2978_2978_2978_2978_2978_2978_2978_2978_2978_2978_2978,
    0x2978_2978_2978_2978_2978_2978_2980_2980_2980_2980_2980_2980_2980_2980_2980_2980,
    0x2980_2980_2980_2980_2980_2980_2980_2980_2980_2980_2980_2980_2980_2980_2980_2980,
    0x2980_2980_2980_2980_2980_2980_2980_2980_2980_2980_2980_2980_2980_2980_2980_2980,
    0x2980_2980_2980_2980_2980_2980_2980_2980_2980_2980_2980_2980_2980_2980_2980_2980,
    0x2980_2980_2980_2980_2980_2980_2980_2980_2980_2980_2980_2980_2980_2980_2980_2980,
    0x2980_2980_2980_2980_2980_2980_2980_2980_2980_2980_2980_2980_2980_2980_2980_2980,
    0x2980_2980_2980_2980_2980_2980_2980_2980_2980_2980_2980_2980_2980_2980_2980_2980,
    0x2980_2980_2980_2980_2980_2980_2980_2980_2980_2980_2980_2980_2980_2980_2980_2980,
    0x2980_2980_2980_2980_2980_2980_2980_2980_2980_2980_2980_2980_2980_2980_2980_2980,
    0x2980_2980_2980_2980_2980_2980_2980_2980_2980_2980_2980_2980_2980_2980_2980_2980,
    0x2980_2980_2980_2980_2980_2980_2981_2985_2988_2988_2988_2988_2988_2988_2988_2988,
    0x2988_2988_2988_2988_2988_2988_2988_2988_2988_2988_2988_2988_2988_2988_2988_2988,
    0x2988_2988_2988_2988_2988_2988_2988_2988_2988_2988_2988_2988_2988_2988_2988_2988,
    0x2988_2988_2988_2988_2988_2988_2988_2988_2988_2988_2988_2988_2988_2988_2988_2988,
    0x2988_2988_2988_2988_2988_2988_2988_2988_2988_2988_2988_2988_2988_2988_2988_2988,
    0x2988_2988_2988_2988_2988_2988_2988_2988_2988_2988_2988_2988_2988_2988_2988_2988,
    0x2988_2988_2988_2988_2988_2988_2988_2988_2988_2988_2988_2988_2988_2988_2988_2988,
    0x2988_2988_2988_2988_2988_2988_2988_2988_2988_2988_2988_2988_2988_2988_2988_2988,
    0x2988_2988_2988_2988_2988_2988_2988_2988_2988_2988_2988_2988_2988_2988_2988_2988,
    0x2988_2988_2988_2988_2988_2988_2988_2988_2988_2988_2988_2988_2988_2988_2988_2988,
    0x2988_2988_2988_2988_2988_2988_2988_2988_2988_2988_2988_2988_2988_2988_2988_2988,
    0x2988_2988_2988_2988_2988_2988_2988_2988_2988_2988_2988_2988_2988_2988_2988_2988,
    0x2988_2988_2988_2988_2988_2988_2988_2988_2988_2988_2988_2988_2988_2988_2988_2988,
    0x2988_2988_2988_2988_2988_2988_2988_2988_2988_2988_2988_2988_2988_2988_2988_2988,
    0x2988_2988_2988_2988_2988_2988_2988_2988_2988_2988_2988_2988_2988_2988_2988_2988,
    0x2988_2988_2988_2988_2988_2988_2988_2988_2988_2988_2989_298C_298C_298C_298C_298C,
    0x298C_298C_298C_298C_298C_298C_298C_298C_298C_298C_298C_298C_298C_298C_298C_298C,
    0x298C_298C_298C_298C_298C_298C_298C_298C_298C_298C_298C_298C_298C_298C_298C_298C,
    0x298C_298C_298C_298C_298C_298C_298C_298C_298C_298C_298C_298C_298C_298C_298C_298C,
    0x298C_298C_298C_298C_298C_298C_298C_298C_298C_298C_298C_298C_298C_298C_298C_298C,
    0x298C_298C_298C_298C_298C_298C_298C_298C_298C_298C_298C_298C_298C_298C_298C_298C,
    0x298C_298C_298C_298C_298C_298C_298C_298C_298C_298C_298C_298C_298C_298C_298C_298C,
    0x298C_298C_298C_298C_298C_298C_298C_298C_298C_298C_298C_298C_298C_298C_298C_298C,
    0x298C_298C_298C_298C_298C_298C_298C_298C_298C_298C_298C_298C_298C_298C_298C_298C,
    0x298C_298C_298C_298C_298C_298C_298C_298C_298C_298C_298C_298C_298C_298C_298C_298C,
    0x298C_298C_298C_298C_298C_298C_298C_298C_298C_298C_298C_298C_298C_298C_298C_298C,
    0x298C_298C_298C_298C_298C_298C_298C_298C_298C_298C_298C_298C_298C_298C_298C_298C,
    0x298C_298C_298C_298C_298C_298C_298C_298C_298C_298C_298C_298C_298C_298C_298C_298C,
    0x298C_298C_298C_298C_298C_298C_298C_298C_298C_298C_298C_298C_298C_298C_298C_298C,
    0x298C_298C_298C_298C_298C_298C_298C_298C_298C_298C_298C_298C_298C_298C_298C_298C,
    0x298C_298C_298C_298C_298C_298C_298C_298C_298C_298C_298C_298C_298C_298C_298C_298C,
    0x298C_298C_298C_298C_298C_298C_298C_298C_298C_298C_298C_298C_298C_298C_298C_298C,
    0x298C_298C_298C_298C_298C_298C_298C_298C_298C_298C_298C_298C_298C_298C_298C_298C,
    0x298C_298C_298C_298C_298C_298C_298C_298C_298C_298C_298C_298C_298C_298C_298C_298C,
    0x298C_298C_298C_298C_298C_298C_298C_298C_298C_298C_298C_298D_2990_2990_2990_2990,
    0x2990_2990_2990_2990_2990_2990_2990_2990_2990_2990_2990_2990_2990_2990_2990_2990,
    0x2990_2990_2990_2990_2990_2990_2990_2990_2990_2990_2990_2990_2990_2990_2990_2990,
    0x2990_2990_2990_2990_2990_2990_2990_2990_2990_2990_2990_2990_2990_2990_2990_2990,
    0x2990_2990_2990_2990_2990_2990_2990_2990_2990_2990_2990_2990_2990_2990_2990_2990,
    0x2990_2990_2990_2990_2990_2990_2990_2990_2990_2990_2990_2990_2990_2990_2990_2991,
    0x2994_2994_2994_2994_2994_2994_2994_2994_2994_2994_2994_2994_2994_2995_2999_299D,
    0x29A1_29A5_29A9_29AD_29B1_29B5_29B9_29BD_29C1_29C5_29C9_29CD_29D1_29D5_29D9_29DD,
    0x29E1_29E5_29E9_29ED_29F1_29F5_29F9_29FD_2A01_2A05_2A09_2A0D_2A11_2A15_2A19_2A1D,
    0x2A21_2A25_2A29_2A2D_2A31_2A35_2A39_2A3D_2A41_2A45_2A49_2A4D_2A51_2A55_2A59_2A5D,
    0x2A61_2A65_2A69_2A6D_2A71_2A75_2A79_2A7D_2A81_2A85_2A89_2A8D_2A91_2A95_2A99_2A9D,
    0x2AA1_2AA5_2AA9_2AAD_2AB1_2AB5_2AB9_2ABD_2AC1_2AC5_2AC9_2ACD_2AD1_2AD5_2AD9_2ADD,
    0x2AE1_2AE5_2AE9_2AED_2AF1_2AF5_2AF9_2AFD_2B01_2B05_2B09_2B0D_2B11_2B15_2B19_2B1D,
    0x2B21_2B25_2B29_2B2D_2B31_2B35_2B39_2B3D_2B41_2B45_2B49_2B4D_2B51_2B55_2B59_2B5D,
    0x2B61_2B65_2B69_2B6D_2B71_2B75_2B79_2B7D_2B81_2B85_2B89_2B8D_2B91_2B95_2B99_2B9D,
    0x2BA1_2BA5_2BA9_2BAD_2BB1_2BB5_2BB9_2BBD_2BC1_2BC5_2BC9_2BCD_2BD1_2BD5_2BD9_2BDD,
    0x2BE1_2BE5_2BE9_2BED_2BF1_2BF5_2BF9_2BFD_2C01_2C05_2C09_2C0D_2C11_2C15_2C19_2C1D,
    0x2C21_2C25_2C29_2C2D_2C31_2C35_2C39_2C3D_2C41_2C45_2C49_2C4D_2C51_2C55_2C59_2C5D,
    0x2C61_2C65_2C69_2C6D_2C71_2C75_2C79_2C7D_2C81_2C85_2C89_2C8D_2C91_2C95_2C99_2C9D,
    0x2CA1_2CA5_2CA9_2CAD_2CB1_2CB5_2CB9_2CBD_2CC1_2CC5_2CC9_2CCD_2CD1_2CD5_2CD9_2CDD,
    0x2CE1_2CE5_2CE9_2CEC_2CEC_2CEC_2CEC_2CEC_2CEC_2CEC_2CEC_2CEC_2CEC_2CEC_2CEC_2CEC,
    0x2CEC_2CEC_2CEC_2CEC_2CEC_2CEC_2CEC_2CEC_2CEC_2CEC_2CEC_2CEC_2CEC_2CEC_2CEC_2CEC,
    0x2CEC_2CEC_2CEC_2CEC_2CEC_2CEC_2CEC_2CEC_2CEC_2CEC_2CEC_2CEC_2CEC_2CEC_2CED_2CF0,
    0x2CF0_2CF0_2CF0_2CF0_2CF0_2CF0_2CF0_2CF0_2CF0_2CF0_2CF0_2CF0_2CF0_2CF0_2CF0_2CF0,
    0x2CF0_2CF0_2CF0_2CF0_2CF0_2CF0_2CF0_2CF0_2CF0_2CF0_2CF0_2CF0_2CF0_2CF0_2CF0_2CF0,
    0x2CF0_2CF0_2CF0_2CF0_2CF0_2CF0_2CF0_2CF0_2CF0_2CF0_2CF0_2CF0_2CF0_2CF0_2CF0_2CF0,
    0x2CF0_2CF0_2CF0_2CF0_2CF1_2CF4_2CF5_2CF9_2CFD_2D00_2D00_2D00_2D00_2D00_2D00_2D00,
    0x2D00_2D00_2D00_2D00_2D00_2D00_2D00_2D00_2D00_2D00_2D00_2D08_2D08_2D10_2D10_2D18,
    0x2D18_2D20_2D20_2D28_2D28_2D30_2D30_2D38_2D38_2D40_2D40_2D48_2D48_2D50_2D50_2D58,
    0x2D58_2D60_2D60_2D60_2D68_2D68_2D70_2D70_2D78_2D78_2D78_2D78_2D78_2D78_2D78_2D80,
    0x2D88_2D88_2D90_2D98_2D98_2DA0_2DA8_2DA8_2DB0_2DB8_2DB8_2DC0_2DC8_2DC8_2DC8_2DC8,
    0x2DC8_2DC8_2DC8_2DC8_2DC8_2DC8_2DC8_2DC8_2DC8_2DC8_2DC8_2DC8_2DC8_2DC8_2DC8_2DC8,
    0x2DC8_2DC8_2DC8_2DD0_2DD0_2DD0_2DD0_2DD0_2DD0_2DD1_2DD9_2DE0_2DE0_2DE9_2DF0_2DF0,
    0x2DF0_2DF0_2DF0_2DF0_2DF0_2DF0_2DF0_2DF0_2DF0_2DF0_2DF0_2DF8_2DF8_2E00_2E00_2E08,
    0x2E08_2E10_2E10_2E18_2E18_2E20_2E20_2E28_2E28_2E30_2E30_2E38_2E38_2E40_2E40_2E48,
    0x2E48_2E50_2E50_2E50_2E58_2E58_2E60_2E60_2E68_2E68_2E68_2E68_2E68_2E68_2E68_2E70,
    0x2E78_2E78_2E80_2E88_2E88_2E90_2E98_2E98_2EA0_2EA8_2EA8_2EB0_2EB8_2EB8_2EB8_2EB8,
    0x2EB8_2EB8_2EB8_2EB8_2EB8_2EB8_2EB8_2EB8_2EB8_2EB8_2EB8_2EB8_2EB8_2EB8_2EB8_2EB8,
    0x2EB8_2EB8_2EB8_2EC0_2EC0_2EC0_2EC8_2ED0_2ED8_2EE0_2EE0_2EE0_2EE0_2EE9_2EF0_2EF0,
    0x2EF0_2EF0_2EF0_2EF0_2EF0_2EF0_2EF0_2EF0_2EF0_2EF0_2EF0_2EF0_2EF0_2EF0_2EF0_2EF0,
    0x2EF0_2EF0_2EF0_2EF0_2EF0_2EF0_2EF0_2EF0_2EF0_2EF0_2EF0_2EF0_2EF0_2EF0_2EF0_2EF0,
    0x2EF0_2EF0_2EF0_2EF0_2EF0_2EF0_2EF0_2EF0_2EF0_2EF0_2EF0_2EF0_2EF0_2EF0_2EF0_2EF0,
    0x2EF1_2EF5_2EF9_2EFD_2F01_2F05_2F09_2F0D_2F11_2F15_2F19_2F1D_2F21_2F25_2F29_2F2D,
    0x2F31_2F35_2F39_2F3D_2F41_2F45_2F49_2F4D_2F51_2F55_2F59_2F5D_2F61_2F65_2F69_2F6D,
    0x2F71_2F75_2F79_2F7D_2F81_2F85_2F89_2F8D_2F91_2F95_2F99_2F9D_2FA1_2FA5_2FA9_2FAD,
    0x2FB1_2FB5_2FB9_2FBD_2FC1_2FC5_2FC9_2FCD_2FD1_2FD5_2FD9_2FDD_2FE1_2FE5_2FE9_2FED,
    0x2FF1_2FF5_2FF9_2FFD_3001_3005_3009_300D_3011_3015_3019_301D_3021_3025_3029_302D,
    0x3031_3035_3039_303D_3041_3045_3049_304D_3051_3055_3059_305D_3061_3065_3068_3068,
    0x3068_3069_306D_3071_3075_3079_307D_3081_3085_3089_308D_3091_3095_3099_309D_30A0,
    0x30A0_30A0_30A0_30A0_30A0_30A0_30A0_30A0_30A0_30A0_30A0_30A0_30A0_30A0_30A0_30A0,
    0x30A0_30A0_30A0_30A0_30A0_30A0_30A0_30A0_30A0_30A0_30A0_30A0_30A0_30A0_30A0_30A0,
    0x30A0_30A0_30A0_30A0_30A0_30A0_30A0_30A0_30A0_30A0_30A0_30A0_30A0_30A0_30A0_30A0,
    0x30A0_30A0_30A0_30A0_30A0_30A0_30A0_30A0_30A0_30A0_30A0_30A0_30A0_30A0_30A0_30A0,
    0x30A0_30A0_30A0_30A0_30A0_30A0_30A0_30A0_30A0_30A0_30A0_30A0_30A0_30A0_30A0_30A0,
    0x30A0_30A0_30A0_30A0_30A0_30A0_30A0_30A0_30A0_30A0_30A0_30A0_30A0_30A0_30A0_30A0,
    0x30A1_30AD_30B9_30C5_30D1_30DD_30E9_30F5_3101_310D_3119_3125_3131_313D_3149_3159,
    0x3169_3179_3189_3199_31A9_31B9_31C9_31D9_31E9_31F9_3209_3219_3229_3239_3255_326C,
    0x326D_3279_3285_3291_329D_32A9_32B5_32C1_32CD_32D9_32E5_32F1_32FD_3309_3315_3321,
    0x332D_3339_3345_3351_335D_3369_3375_3381_338D_3399_33A5_33B1_33BD_33C9_33D5_33E1,
    0x33ED_33F9_3405_3411_341D_3421_3425_3429_342C_342C_342C_342C_342C_342C_342C_342C,
    0x342D_3439_3441_3449_3451_3459_3461_3469_3471_3479_3481_3489_3491_3499_34A1_34A9,
    0x34B1_34B5_34B9_34BD_34C1_34C5_34C9_34CD_34D1_34D5_34D9_34DD_34E1_34E5_34E9_34F1,
    0x34F9_3501_3509_3511_3519_3521_3529_3531_3539_3541_3549_3551_3559_356D_357D_3584,
    0x3585_3589_358D_3591_3595_3599_359D_35A1_35A5_35A9_35AD_35B1_35B5_35B9_35BD_35C1,
    0x35C5_35C9_35CD_35D1_35D5_35D9_35DD_35E1_35E5_35E9_35ED_35F1_35F5_35F9_35FD_3601,
    0x3605_3609_360D_3611_3615_3619_361D_3621_3625_3629_362D_3631_3635_3639_363D_3641,
    0x3645_3649_3651_3659_3661_3669_3671_3679_3681_3689_3691_3699_36A1_36A9_36B1_36B9,
    0x36C1_36C9_36D1_36D9_36E1_36E9_36F1_36F9_3701_3709_3715_3721_372D_3735_3741_3749,
    0x3755_3759_375D_3761_3765_3769_376D_3771_3775_3779_377D_3781_3785_3789_378D_3791,
    0x3795_3799_379D_37A1_37A5_37A9_37AD_37B1_37B5_37B9_37BD_37C1_37C5_37C9_37CD_37D1,
    0x37D5_37D9_37DD_37E1_37E5_37E9_37ED_37F1_37F5_37F9_37FD_3801_3805_3809_380D_3811,
    0x3818_381B_3829_383B_3849_3857_3865_3871_387F_3891_38A1_38AD_38B9_38C5_38D5_38E7,
    0x38F3_38FF_3907_3911_3923_3931_393B_394D_3965_397B_3987_399B_39AD_39BD_39C9_39D7,
    0x39E1_39F1_3A07_3A15_3A21_3A2F_3A3B_3A43_3A49_3A51_3A59_3A65_3A73_3A87_3A93_3AA3,
    0x3AB7_3AC3_3ACB_3AD3_3AE5_3AF7_3B09_3B15_3B2B_3B33_3B3D_3B4B_3B57_3B63_3B6F_3B7F,
    0x3B89_3B93_3B9D_3BA9_3BB5_3BC5_3BD1_3BDD_3BE9_3BFD_3C0D_3C17_3C2B_3C33_3C41_3C53,
    0x3C5D_3C69_3C75_3C85_3C8F_3C9B_3CA9_3CB3_3CC5_3CD1_3CD9_3CE1_3CE9_3CF1_3CF9_3D01,
    0x3D09_3D11_3D19_3D21_3D2D_3D39_3D45_3D51_3D5D_3D69_3D75_3D81_3D8D_3D99_3DA5_3DB1,
    0x3DBD_3DC9_3DD5_3DE1_3DE9_3DF1_3DFD_3E05_3E0D_3E17_3E23_3E2D_3E35_3E3D_3E45_3E4D,
    0x3E55_3E65_3E6D_3E75_3E7D_3E85_3E8D_3E95_3E9D_3EA5_3EB1_3EC1_3EC9_3ED1_3ED9_3EE1,
    0x3EE9_3EF1_3EF9_3F05_3F11_3F1D_3F2B_3F33_3F3B_3F43_3F49_3F51_3F59_3F61_3F69_3F71,
    0x3F7B_3F87_3F93_3F9B_3FA7_3FB3_3FBF_3FC7_3FD1_3FDF_3FED_3FF5_4001_400D_4019_4025,
    0x403B_4051_4059_4061_4069_4071_4079_4081_4089_4091_4099_40A1_40A9_40B1_40B9_40C1,
    0x40C9_40D1_40D9_40E1_40F1_40F9_4101_4109_4119_4125_412D_4135_413D_4145_414D_4155,
    0x415D_4165_416D_4175_4181_4189_4191_419D_41A9_41B1_41C1_41CD_41D5_41DD_41E5_41ED,
    0x41F9_4205_420D_4215_421D_4225_422D_4235_423D_4245_424D_4259_4265_4271_427D_4289,
    0x4295_42A1_42AD_42B9_42C5_42D1_42DD_42E9_42F5_4301_430D_4319_4325_4331_433D_4349,
    0x4355_4360_4360_4360_4360_4360_4360_4360_4360_4360_4360_4360_4360_4360_4360_4360,
    0x4360_4360_4360_4360_4360_4360_4360_4360_4360_4360_4360_4360_4360_4360_4360_4360,
    0x4360_4360_4360_4360_4360_4360_4360_4360_4360_4360_4360_4360_4360_4360_4360_4360,
    0x4360_4360_4360_4360_4360_4360_4360_4360_4360_4360_4360_4360_4360_4360_4360_4360,
    0x4360_4360_4360_4360_4360_4360_4360_4360_4360_4360_4360_4360_4360_4360_4360_4360,
    0x4360_4360_4360_4360_4360_4360_4360_4360_4360_4360_4360_4360_4360_4360_4360_4360,
    0x4360_4360_4360_4360_4360_4360_4360_4360_4360_4360_4360_4360_4360_4360_4360_4360,
    0x4360_4360_4360_4360_4360_4360_4360_4360_4360_4360_4360_4360_4360_4360_4360_4360,
    0x4360_4360_4360_4360_4360_4360_4360_4360_4360_4360_4360_4360_4360_4360_4360_4360,
    0x4360_4360_4360_4360_4360_4360_4360_4360_4360_4360_4360_4360_4360_4360_4361_4365,
    0x4368_4368_4368_4368_4368_4368_4368_4368_4368_4368_4368_4368_4368_4368_4368_4368,
    0x4368_4368_4368_4368_4368_4368_4368_4368_4368_4368_4368_4368_4368_4368_4368_4368,
    0x4368_4368_4368_4368_4368_4368_4368_4368_4368_4368_4368_4368_4368_4368_4368_4368,
    0x4368_4368_4368_4368_4368_4368_4368_4368_4368_4368_4368_4368_4368_4368_4368_4368,
    0x4368_4368_4368_4368_4368_4368_4368_4368_4368_4368_4368_4368_4368_4368_4368_4368,
    0x4368_4368_4368_4368_4368_4368_4368_4368_4368_4368_4368_4368_4368_4368_4368_4368,
    0x4368_4368_4368_4368_4368_4368_4368_4368_4368_4368_4368_4368_4368_4368_4368_4368,
    0x4368_4368_4368_4368_4368_4368_4368_4368_4368_4368_4368_4368_4368_4368_4368_4368,
    0x4368_4368_4368_4368_4368_4368_4368_4368_4368_4368_4368_4368_4368_4368_4368_4368,
    0x4368_4368_4368_4368_4368_4368_4368_4368_4368_4368_4368_4368_4368_4368_4368_4368,
    0x4368_4368_4368_4368_4368_4368_4368_4368_4368_4368_4368_4368_4368_4368_4368_4368,
    0x4368_4368_4368_4368_4368_4368_4368_4368_4368_4368_4368_4368_4368_4368_4368_4368,
    0x4368_4368_4368_4368_4368_4368_4368_4368_4368_4368_4368_4368_4368_4368_4368_4368,
    0x4368_4368_4368_4369_436C_436C_436C_436C_436C_436C_436C_436C_436C_436C_436C_436C,
    0x436C_436C_436C_436C_436C_436C_436C_436C_436C_436C_436C_436C_436C_436C_436C_436C,
    0x436C_436C_436C_436C_436C_436C_436C_436C_436C_436C_436C_436C_436C_436C_436C_436C,
    0x436C_436C_436C_436C_436C_436C_436C_436C_436C_436C_436C_436C_436C_436C_436C_436C,
    0x436C_436C_436C_436C_436C_436C_436C_436C_436C_436C_436C_436C_436C_436C_436C_436C,
    0x436C_436C_436C_436C_436C_436C_436C_436C_436C_436C_436C_436C_436C_436C_436C_436C,
    0x436C_436C_436C_436C_436C_436C_436C_436C_436C_436C_436C_436C_436C_436C_436C_436C,
    0x436C_436C_436C_436C_436C_436C_436C_436C_436C_436C_436C_436C_436C_436C_436C_436C,
    0x436C_436C_436C_436C_436C_436D_4371_4375_4378_4378_4378_4379_437D_4380_4380_4380,
    0x4380_4380_4380_4380_4380_4380_4380_4380_4380_4380_4380_4380_4380_4380_4380_4380,
    0x4380_4380_4380_4380_4380_4380_4380_4380_4380_4380_4380_4380_4380_4380_4380_4380,
    0x4380_4380_4380_4380_4380_4380_4380_4380_4380_4380_4380_4380_4380_4380_4380_4380,
    0x4380_4380_4380_4380_4380_4380_4380_4380_4380_4380_4380_4380_4380_4380_4380_4380,
    0x4380_4380_4380_4380_4380_4380_4380_4380_4380_4380_4380_4380_4380_4380_4380_4380,
    0x4380_4380_4380_4380_4380_4380_4380_4380_4380_4380_4380_4380_4380_4380_4380_4380,
    0x4381_4385_4389_438D_4390_4390_4390_4390_4390_4390_4390_4390_4390_4391_4394_4394,
    0x4394_4394_4394_4394_4394_4394_4394_4394_4394_4394_4394_4394_4394_4394_4394_4394,
    0x4394_4394_4394_4394_4394_4394_4394_4394_4394_4394_4394_4394_4394_4394_4394_4394,
    0x4394_4394_4394_4394_4394_4394_4394_4394_4394_4394_4394_4394_4394_4394_4394_4394,
    0x4394_4394_4394_4394_4394_4394_4394_4394_4394_4394_4394_4394_4394_4394_4394_4394,
    0x4394_4394_4394_4394_4394_4394_4394_4394_4394_4394_4394_4394_4394_4394_4394_4394,
    0x4394_4394_4394_4394_4394_4394_4394_4394_4394_4394_4394_4394_4394_4394_4394_4394,
    0x4394_4394_4394_4394_4394_4394_4394_4394_4394_4394_4394_4394_4394_4394_4394_4394,
    0x4394_4394_4394_4394_4394_4394_4394_4394_4394_4394_4394_4394_4394_4394_4394_4394,
    0x4394_4394_4394_4394_4394_4394_4394_4394_4394_4394_4394_4394_4394_4394_4394_4394,
    0x4394_4394_4394_4394_4394_4394_4398_439C_43A0_43A4_43A8_43AC_43B0_43B4_43B8_43BC,
    0x43C0_43C4_43C8_43CC_43D0_43D4_43D8_43DC_43E0_43E4_43E8_43EC_43F0_43F4_43F8_43FC,
    0x4400_4404_4408_440C_4410_4414_4418_441C_4420_4424_4428_442C_4430_4434_4438_443C,
    0x4440_4444_4448_444C_4450_4454_4458_445C_4460_4464_4468_446C_4470_4474_4478_447C,
    0x4480_4484_4488_448C_4490_4494_4498_449C_44A0_44A4_44A8_44AC_44B0_44B4_44B8_44BC,
    0x44C0_44C4_44C8_44CC_44D0_44D4_44D8_44DC_44E0_44E4_44E8_44EC_44F0_44F4_44F8_44FC,
    0x4500_4504_4508_450C_4510_4514_4518_451C_4520_4524_4528_452C_4530_4534_4538_453C,
    0x4540_4544_4548_454C_4550_4554_4558_455C_4560_4564_4568_456C_4570_4574_4578_457C,
    0x4580_4584_4588_458C_4590_4594_4598_459C_45A0_45A4_45A8_45AC_45B0_45B4_45B8_45BC,
    0x45C0_45C4_45C8_45CC_45D0_45D4_45D8_45DC_45E0_45E4_45E8_45EC_45F0_45F4_45F8_45FC,
    0x4600_4604_4608_460C_4610_4614_4618_461C_4620_4624_4628_462C_4630_4634_4638_463C,
    0x4640_4644_4648_464C_4650_4654_4658_465C_4660_4664_4668_466C_4670_4674_4678_467C,
    0x4680_4684_4688_468C_4690_4694_4698_469C_46A0_46A4_46A8_46AC_46B0_46B4_46B8_46BC,
    0x46C0_46C4_46C8_46CC_46D0_46D4_46D8_46DC_46E0_46E4_46E8_46EC_46F0_46F4_46F8_46FC,
    0x4700_4704_4708_470C_4710_4714_4718_471C_4720_4724_4728_472C_4730_4734_4738_473C,
    0x4740_4744_4748_474C_4750_4754_4758_475C_4760_4764_4768_476C_4770_4774_4778_477C,
    0x4780_4784_4788_478C_4790_4794_4794_4798_479C_47A0_47A4_47A8_47AC_47B0_47B4_47B8,
    0x47BC_47C0_47C4_47C8_47CC_47CC_47CC_47D0_47D0_47D4_47D4_47D4_47D8_47DC_47E0_47E4,
    0x47E8_47EC_47F0_47F4_47F8_47FC_47FC_4800_4800_4804_4804_4804_4808_480C_480C_480C,
    0x480C_4810_4814_4818_481C_4820_4824_4828_482C_4830_4834_4838_483C_4840_4844_4848,
    0x484C_4850_4854_4858_485C_4860_4864_4868_486C_4870_4874_4878_487C_4880_4884_4888,
    0x488C_4890_4894_4898_489C_48A0_48A4_48A8_48AC_48B0_48B4_48B8_48BC_48C0_48C4_48C8,
    0x48CC_48D0_48D4_48D8_48DC_48E0_48E4_48E8_48EC_48F0_48F4_48F8_48FC_4900_4904_4908,
    0x490C_4910_4914_4918_491C_491C_491C_4920_4924_4928_492C_4930_4934_4938_493C_4940,
    0x4944_4948_494C_4950_4954_4958_495C_4960_4964_4968_496C_4970_4974_4978_497C_4980,
    0x4984_4988_498C_4990_4994_4998_499C_49A0_49A4_49A8_49AC_49B0_49B4_49B8_49BC_49C0,
    0x49C4_49C8_49CC_49D0_49D4_49D8_49DC_49E0_49E4_49E8_49EC_49F0_49F4_49F8_49FC_4A00,
    0x4A04_4A08_4A0C_4A10_4A14_4A18_4A1C_4A20_4A24_4A28_4A2C_4A30_4A34_4A38_4A3C_4A40,
    0x4A44_4A48_4A4C_4A50_4A54_4A58_4A5C_4A60_4A64_4A68_4A6C_4A70_4A74_4A78_4A7C_4A80,
    0x4A84_4A88_4A8C_4A90_4A94_4A98_4A9C_4AA0_4AA4_4AA8_4AAC_4AB0_4AB4_4AB8_4ABC_4AC0,
    0x4AC4_4AC4_4AC4_4AC4_4AC4_4AC4_4AC4_4AC4_4AC4_4AC4_4AC4_4AC4_4AC4_4AC4_4AC4_4AC4,
    0x4AC4_4AC4_4AC4_4AC4_4AC4_4AC4_4AC4_4AC4_4AC4_4AC4_4AC4_4AC4_4AC4_4AC4_4AC4_4AC4,
    0x4AC4_4AC4_4AC4_4AC4_4AC4_4AC4_4AC4_4AC5_4ACD_4AD5_4ADD_4AE9_4AF7_4AFD_4B04_4B04,
    0x4B04_4B04_4B04_4B04_4B04_4B04_4B04_4B04_4B04_4B04_4B05_4B0D_4B15_4B1D_4B25_4B2C,
    0x4B2C_4B2C_4B2C_4B2C_4B2C_4B34_4B34_4B3D_4B41_4B45_4B49_4B4D_4B51_4B55_4B59_4B5D,
    0x4B61_4B64_4B6C_4B76_4B7E_4B84_4B8C_4B94_4B9C_4BA4_4BAC_4BB4_4BBC_4BC4_4BCC_4BCC,
    0x4BD4_4BDC_4BE4_4BEC_4BF4_4BF4_4BFC_4BFC_4C04_4C0C_4C0C_4C14_4C1C_4C1C_4C24_4C2C,
    0x4C34_4C3C_4C44_4C4C_4C54_4C5C_4C65_4C6D_4C71_4C75_4C79_4C7D_4C81_4C85_4C89_4C8D,
    0x4C91_4C95_4C99_4C9D_4CA1_4CA5_4CA9_4CAD_4CB1_4CB5_4CB9_4CBD_4CC1_4CC5_4CC9_4CCD,
    0x4CD1_4CD5_4CD9_4CDD_4CE1_4CE5_4CE9_4CED_4CF1_4CF5_4CF9_4CFD_4D01_4D05_4D09_4D0D,
    0x4D11_4D15_4D19_4D1D_4D21_4D25_4D29_4D2D_4D31_4D35_4D39_4D3D_4D41_4D45_4D49_4D4D,
    0x4D51_4D55_4D59_4D5D_4D61_4D65_4D69_4D6D_4D71_4D75_4D79_4D7D_4D81_4D85_4D89_4D8D,
    0x4D91_4D95_4D99_4D9D_4DA1_4DA5_4DA9_4DAD_4DB1_4DB5_4DB9_4DBF_4DC3_4DC5_4DC9_4DCD,
    0x4DD1_4DD5_4DD9_4DDD_4DE1_4DE5_4DE9_4DEF_4DF3_4DF4_4DF4_4DF4_4DF4_4DF4_4DF4_4DF4,
    0x4DF4_4DF4_4DF4_4DF4_4DF4_4DF4_4DF4_4DF4_4DF4_4DF4_4DF4_4DF4_4DF4_4DF4_4DF4_4DF4,
    0x4DF4_4DF4_4DF4_4DF4_4DF4_4DF4_4DF4_4DF4_4DF4_4DF4_4DF5_4DF9_4DFD_4E01_4E05_4E09,
    0x4E0D_4E11_4E15_4E19_4E1F_4E21_4E25_4E29_4E2D_4E31_4E35_4E39_4E3D_4E41_4E45_4E49,
    0x4E4D_4E53_4E5B_4E63_4E6B_4E73_4E7B_4E83_4E8B_4E93_4E9B_4EA3_4EAB_4EB3_4EBB_4EC3,
    0x4ECB_4ED3_4EDB_4EE1_4EE5_4EE9_4EED_4EF0_4EF3_4EFB_4F03_4F0B_4F13_4F19_4F21_4F29,
    0x4F31_4F39_4F41_4F49_4F51_4F59_4F61_4F69_4F71_4F79_4F81_4F89_4F91_4F99_4FA1_4FA9,
    0x4FB1_4FB9_4FC1_4FC9_4FD1_4FD9_4FE1_4FE9_4FF1_4FF9_5001_5009_5011_5019_5021_5029,
    0x5031_5039_5041_5049_5051_5059_5061_5069_5071_5079_5081_5089_5091_5099_50A1_50A9,
    0x50B1_50B9_50C1_50C9_50D1_50D9_50E1_50E9_50F1_50F9_5101_5109_5111_5119_5121_5129,
    0x5131_5139_5141_5149_5151_5159_5161_5169_5171_5179_5181_5189_5191_5199_51A1_51A9,
    0x51B1_51B9_51C1_51C9_51D1_51D9_51E1_51ED_51F9_5205_5211_521D_522B_5233_523B_5243,
    0x524B_5253_5259_5261_5269_5271_5279_5281_5289_5291_5299_52A1_52A9_52B1_52B9_52C1,
    0x52C9_52D1_52D9_52E1_52E9_52F1_52F9_5301_5309_5311_5319_5321_5329_5331_5339_5341,
    0x5349_5351_5359_5361_5369_5371_5379_5381_5389_5391_5399_53A1_53A9_53B1_53B9_53C3,
    0x53CB_53D3_53DB_53E3_53E9_53F1_53F9_5401_5409_5411_5419_5421_5429_5431_5439_5441,
    0x5449_5451_5459_5461_5469_5471_5479_5481_5489_5491_5499_54A1_54A9_54B1_54B9_54C1,
    0x54C9_54D1_54D9_54E1_54E9_54F1_54F9_5501_5509_5511_5519_5521_5529_5531_5539_5541,
    0x5549_5551_5559_5561_5569_5571_5579_5581_5589_5591_5599_55A1_55A9_55B1_55B9_55C1,
    0x55C9_55D1_55D9_55E1_55E9_55F1_55F9_5603_560B_5611_5619_5621_5629_5631_5639_5641,
    0x5649_5651_5659_5661_5669_5671_5679_5681_5689_5691_5699_56A5_56B1_56BD_56C5_56CD,
    0x56D5_56DD_56E5_56ED_56F5_56FD_5705_570D_5714_5715_571D_5725_572D_5735_573D_5745,
    0x574D_5755_575D_5765_576D_5775_577D_5785_578D_5795_579D_57A5_57AD_57B5_57BD_57C5,
    0x57CD_57D5_57DD_57E5_57ED_57F5_57FD_5805_580D_5815_581D_5825_582D_5835_583D_5845,
    0x584D_5855_585D_5865_586D_5875_587D_5885_588D_5895_589D_58A5_58AD_58B5_58BD_58C5,
    0x58CD_58D5_58DD_58E5_58ED_58F5_58FD_5904_5904_5904_5904_5904_5904_5904_5904_5904,
    0x5904_5904_5904_5904_5904_5904_5904_5904_5904_5905_5911_591D_5929_5935_5941_594D,
    0x5959_5965_5971_597D_5989_5995_59A1_59AD_59B9_59C5_59D1_59DD_59E9_59F5_5A01_5A0D,
    0x5A19_5A25_5A31_5A3D_5A49_5A55_5A61_5A6D_5A79_5A85_5A91_5A9D_5AA9_5AB5_5AC1_5ACD,
    0x5AD9_5AE5_5AF1_5AFD_5B09_5B15_5B21_5B2D_5B39_5B45_5B51_5B5D_5B69_5B75_5B81_5B8D,
    0x5B99_5BA5_5BB1_5BBD_5BC9_5BD5_5BE1_5BED_5BF9_5C04_5C04_5C05_5C11_5C1D_5C29_5C35,
    0x5C41_5C4D_5C59_5C65_5C71_5C7D_5C89_5C95_5CA1_5CAD_5CB9_5CC5_5CD1_5CDD_5CE9_5CF5,
    0x5D01_5D0D_5D19_5D25_5D31_5D3D_5D49_5D55_5D61_5D6D_5D79_5D85_5D91_5D9D_5DA9_5DB5,
    0x5DC1_5DCD_5DD9_5DE5_5DF1_5DFD_5E09_5E15_5E21_5E2D_5E39_5E45_5E51_5E5D_5E69_5E75,
    0x5E81_5E8C_5E8C_5E8C_5E8C_5E8C_5E8C_5E8C_5E8C_5E8C_5E8C_5E8C_5E8C_5E8C_5E8C_5E8C,
    0x5E8C_5E8C_5E8C_5E8C_5E8C_5E8C_5E8C_5E8C_5E8C_5E8C_5E8C_5E8C_5E8C_5E8C_5E8C_5E8C,
    0x5E8C_5E8C_5E8C_5E8C_5E8C_5E8C_5E8C_5E8C_5E8C_5E8D_5E99_5EA5_5EB5_5EC5_5ED5_5EE5,
    0x5EF5_5F05_5F15_5F21_5F69_5F89_5F98_5F98_5F98_5F98_5F98_5F98_5F98_5F98_5F98_5F98,
    0x5F98_5F98_5F98_5F98_5F98_5F98_5F98_5F98_5F98_5F98_5F99_5F9D_5FA1_5FA5_5FA9_5FAD,
    0x5FB1_5FB5_5FB9_5FBF_5FC0_5FC0_5FC0_5FC0_5FC0_5FC0_5FC0_5FC0_5FC0_5FC0_5FC0_5FC0,
    0x5FC0_5FC0_5FC0_5FC0_5FC0_5FC0_5FC0_5FC0_5FC0_5FC0_5FC3_5FC5_5FC9_5FCD_5FD1_5FD5,
    0x5FD9_5FDD_5FE1_5FE5_5FE9_5FED_5FF1_5FF5_5FF9_5FFD_6001_6005_6009_600D_6011_6014,
    0x6014_6015_6019_601F_6023_6027_602B_602D_6031_6035_6039_603D_6041_6044_6045_6049,
    0x604D_6051_6055_6059_605D_6061_6065_6069_606D_6071_6075_6079_607D_6081_6085_6089,
    0x608D_6090_6091_6095_6099_609D_60A0_60A0_60A0_60A0_60A1_60A9_60B1_60B8_60B9_60C0,
    0x60C1_60C9_60D1_60D9_60E1_60E9_60F1_60F9_6101_6109_6111_6117_611B_611F_6123_6127,
    0x612B_612F_6133_6137_613B_613F_6143_6145_6149_614D_6151_6155_6159_615D_6161_6165,
    0x6169_616D_6171_6175_6179_617D_6181_6185_6189_618D_6191_6195_6199_619D_61A1_61A5,
    0x61A9_61AD_61B1_61B5_61B9_61BD_61C1_61C5_61C9_61CD_61D1_61D5_61D9_61DD_61E1_61E5,
    0x61E9_61ED_61F1_61F5_61F9_61FD_6201_6205_6209_620D_6211_6215_6219_621D_6221_6225,
    0x6229_622D_6231_6235_6239_623D_6241_6245_6249_624D_6251_6255_6259_625D_6261_6265,
    0x6269_626D_6271_6275_6279_627D_6281_6285_6289_628D_6291_6295_6299_629D_62A1_62A5,
    0x62A9_62AD_62B1_62B5_62B9_62BD_62C1_62C5_62C9_62CD_62D1_62D5_62D9_62DD_62E1_62E7,
    0x62EF_62F7_62FF_6307_630F_6315_631D_6324_6324_6324_6324_6324_6325_6329_632D_6331,
    0x6335_6339_633D_6341_6345_6349_634D_6351_6355_6359_635D_6361_6365_6369_636D_6371,
    0x6375_6379_637D_6381_6385_6389_638D_6391_6395_6399_639D_63A1_63A5_63A9_63AD_63B1,
    0x63B5_63B9_63BD_63C1_63C5_63C9_63CD_63D1_63D5_63D9_63DD_63E1_63E5_63E9_63ED_63F1,
    0x63F5_63F9_63FD_6401_6405_6409_640D_6411_6415_6419_641D_6421_6425_6429_642D_6431,
    0x6435_6439_643D_6441_6445_6449_644D_6451_6455_6459_645D_6461_6465_6469_646D_6471,
    0x6475_6479_647D_6481_6485_6489_648D_6491_6495_6499_649D_64A1_64A5_64A9_64AD_64B1,
    0x64B5_64B9_64BD_64C1_64C5_64C9_64CD_64D1_64D5_64D9_64DD_64E1_64E5_64E9_64ED_64F1,
    0x64F5_64F9_64FD_6501_6505_6509_650D_6511_6515_6519_651D_6521_6525_6529_652D_6531,
    0x6535_6539_653D_6541_6545_6549_654D_6551_6555_6559_655D_6561_6565_6569_656D_6571,
    0x6575_6579_657D_6581_6585_6589_658D_6591_6595_6599_659D_65A3_65A7_65AB_65AF_65B3,
    0x65B7_65BB_65BF_65C3_65C7_65CB_65CF_65D3_65D7_65DB_65DF_65E3_65E7_65EB_65EF_65F3,
    0x65F7_65FB_65FF_6603_6607_660B_660F_6613_6617_661B_661C_661C_661C_661F_6623_6627,
    0x662B_662F_6633_6634_6634_6637_663B_663F_6643_6647_664B_664C_664C_664F_6653_6657,
    0x665B_665F_6663_6664_6664_6667_666B_666F_6670_6670_6670_6671_6675_6679_667F_6681,
    0x6685_6689_668C_668D_6691_6695_6699_669D_66A1_66A5_66A8_66A8_66A8_66A8_66A8_66A8,
    0x66A8_66A8_66A8_66A8_66A8_66A8_66A8_66A8_66A8_66A8_66A8_66A8_66A8_66A8_66A8_66A8,
    0x66A8_66A8_66A8_66A8_66A8_66A8_66A8_66A8_66A8_66A8_66A8_66A8_66A8_66A8_66A8_66A8,
    0x66A8_66A8_66A8_66A8_66A8_66A8_66A8_66A8_66A8_66A8_66A8_66A8_66A8_66A8_66A8_66A8,
    0x66A8_66A8_66A8_66A8_66A8_66A8_66A8_66A8_66A8_66A8_66A8_66A8_66A8_66A8_66A8_66A8,
    0x66A8_66A8_66A8_66A8_66A8_66A8_66A8_66A8_66A8_66A8_66A8_66A8_66A8_66A8_66A8_66A8,
    0x66A8_66A8_66A8_66A8_66A8_66A8_66A8_66A8_66A8_66A8_66A8_66A8_66A8_66A8_66A8_66A8,
    0x66A8_66A8_66A8_66A8_66A8_66A8_66A8_66A8_66A8_66A8_66A8_66A8_66A8_66A8_66A8_66A8,
    0x66A8_66A8_66A8_66A8_66A8_66A8_66A8_66A8_66A8_66A8_66A8_66A8_66A8_66A8_66A8_66A8,
    0x66A8_66A8_66A8_66A8_66A8_66A8_66A8_66A8_66A8_66A8_66A8_66A8_66A8_66A9_66AD_66B1,
    0x66B5_66B9_66BC_66BD_66C1_66C5_66C9_66CD_66D1_66D5_66D9_66DD_66E1_66E5_66E9_66ED,
    0x66F1_66F5_66F9_66FD_6701_6705_6709_670D_6711_6715_6719_671D_6721_6725_6729_672D,
    0x6731_6735_6739_673D_6741_6745_6749_674D_6751_6755_6759_675D_6761_6764_6765_6769,
    0x676D_6771_6775_6779_677D_6781_6785_6788_6788_6788_6788_6788_6788_6788_6788_6788,
    0x6788_6788_6788_6788_6788_6788_6788_6788_6788_6788_6788_6788_6788_6788_6788_6788,
    0x6788_6788_6788_6788_6788_6788_6788_6788_6788_6788_6788_6788_6788_6788_6788_6788,
    0x6788_6788_6788_6788_6788_6788_6788_6788_6788_6788_6788_6788_6788_6788_6788_6788,
    0x6788_6788_6788_6788_6788_6788_6788_6788_6788_6788_6788_6788_6788_6788_6788_6788,
    0x6788_6788_6788_6788_6788_6788_6788_6788_6788_6788_6788_6788_6788_6788_6788_6788,
    0x6788_6788_6788_6788_6788_6788_6788_6788_6788_6788_6788_6788_6788_6788_6788_6788,
    0x6788_6788_6788_6788_6788_6788_6788_6788_6788_6788_6788_6788_6788_6788_6788_6788,
    0x6788_6788_6788_6788_6788_6788_6788_6788_6788_6788_6788_6788_6788_6788_6788_6788,
    0x6788_6788_6788_6788_6788_6788_6788_6788_6788_6788_6788_6788_6788_6788_6788_6788,
    0x6788_6788_6788_6788_6788_6788_6788_6788_6788_6788_6788_6788_6788_6788_6788_6788,
    0x6788_6788_6788_6788_6788_6788_6788_6788_6788_6788_6788_6788_6788_6788_6788_6788,
    0x6788_6788_6788_6788_6788_6788_6788_6788_6788_6788_6788_6788_6788_6788_6788_6788,
    0x6788_6788_6788_6788_6788_6788_6788_6788_6788_6788_6788_6788_6788_6788_6788_6788,
    0x6788_6788_6788_6788_6788_6788_6788_6788_6790_6790_6798_6798_6798_6798_6798_6798,
    0x6798_6798_6798_6798_6798_6798_6798_6798_6798_67A0_67A0_67A0_67A0_67A0_67A0_67A0,
    0x67A0_67A0_67A0_67A0_67A0_67A0_67A0_67A0_67A0_67A0_67A0_67A0_67A0_67A0_67A0_67A0,
    0x67A0_67A0_67A0_67A0_67A0_67A0_67A0_67A0_67A0_67A0_67A0_67A0_67A0_67A0_67A0_67A0,
    0x67A0_67A0_67A0_67A0_67A0_67A0_67A0_67A0_67A0_67A0_67A0_67A0_67A0_67A0_67A0_67A0,
    0x67A0_67A0_67A0_67A0_67A0_67A0_67A0_67A0_67A0_67A0_67A0_67A0_67A0_67A0_67A0_67A0,
    0x67A0_67A0_67A0_67A0_67A0_67A0_67A0_67A0_67A0_67A0_67A0_67A0_67A0_67A0_67A0_67A0,
    0x67A0_67A0_67A0_67A0_67A0_67A0_67A0_67A0_67A0_67A0_67A0_67A0_67A0_67A0_67A0_67A0,
    0x67A0_67A0_67A0_67A0_67A0_67A0_67A0_67A0_67A0_67A0_67A0_67A0_67A0_67A0_67A0_67A0,
    0x67A0_67A0_67A0_67A0_67A0_67A0_67A0_67A0_67A0_67A0_67A0_67A0_67A0_67A8_67B0_67B0,
    0x67B0_67B0_67B0_67B0_67B0_67B0_67B0_67B0_67B0_67B0_67B0_67B0_67B0_67B0_67B0_67B0,
    0x67B0_67B0_67B0_67B0_67B0_67B0_67B0_67B0_67B0_67B0_67B0_67B0_67B0_67B0_67B0_67B0,
    0x67B0_67B0_67B0_67B0_67B0_67B0_67B0_67B0_67B0_67B0_67B0_67B0_67B0_67B0_67B0_67B0,
    0x67B0_67B0_67B0_67B0_67B0_67B0_67B0_67B0_67B0_67B0_67B0_67B0_67B0_67B0_67B0_67B0,
    0x67B0_67B0_67B0_67B0_67B0_67B0_67B0_67B0_67B0_67B0_67B0_67B0_67B0_67B0_67B0_67B0,
    0x67B0_67B0_67B0_67B0_67B0_67B0_67B0_67B0_67B0_67B0_67B0_67B0_67B0_67B0_67B0_67B0,
    0x67B0_67B0_67B0_67B0_67B0_67B0_67B0_67B0_67B0_67B0_67B0_67B0_67B0_67B0_67B0_67B0,
    0x67B0_67B0_67B0_67B0_67B0_67B0_67B0_67B0_67B0_67B0_67B0_67B0_67B0_67B0_67B0_67B0,
    0x67B0_67B0_67B0_67B0_67B0_67B0_67B0_67B0_67B0_67B0_67B0_67B0_67B0_67B0_67B0_67B0,
    0x67B0_67B0_67B0_67B0_67B0_67B0_67B0_67B0_67B0_67B0_67B0_67B0_67B0_67B0_67B0_67B0,
    0x67B0_67B0_67B0_67B0_67B0_67B0_67B0_67B0_67B0_67B0_67B0_67B0_67B0_67B0_67B0_67B0,
    0x67B0_67B0_67B0_67B0_67B0_67B0_67B0_67B0_67B0_67B0_67B0_67B0_67B0_67B0_67B0_67B0,
    0x67B0_67B0_67B0_67B0_67B0_67B0_67B0_67B0_67B0_67B0_67B0_67B0_67B0_67B0_67B0_67B0,
    0x67B0_67B0_67B0_67B0_67B0_67B0_67B0_67B0_67B0_67B0_67B0_67B0_67B0_67B0_67B0_67B0,
    0x67B0_67B0_67B0_67B0_67B0_67B0_67B0_67B0_67B0_67B0_67B0_67B0_67B0_67B0_67B0_67B0,
    0x67B0_67B0_67B0_67B0_67B0_67B0_67B0_67B0_67B0_67B0_67B0_67B0_67B0_67B0_67B0_67B0,
    0x67B0_67B0_67B0_67B0_67B0_67B0_67B0_67B0_67B0_67B0_67B0_67B0_67B0_67B0_67B0_67B0,
    0x67B0_67B0_67B0_67B0_67B0_67B0_67B0_67B0_67B0_67B0_67B0_67B8_67C0_67C0_67C0_67C0,
    0x67C0_67C0_67C0_67C0_67C0_67C0_67C0_67C0_67C0_67C0_67C0_67C0_67C0_67C0_67C0_67C0,
    0x67C0_67C0_67C0_67C0_67C0_67C0_67C0_67C0_67C0_67C0_67C0_67C0_67C0_67C0_67C0_67C0,
    0x67C0_67C0_67C0_67C0_67C0_67C0_67C0_67C0_67C0_67C0_67C0_67C0_67C0_67C0_67C0_67C0,
    0x67C0_67C0_67C0_67C0_67C0_67C0_67C0_67C0_67C0_67C0_67C0_67C0_67C0_67C0_67C0_67C0,
    0x67C0_67C0_67C0_67C0_67C0_67C0_67C0_67C0_67C0_67C0_67C0_67C0_67C0_67C0_67C0_67C0,
    0x67C0_67C0_67C0_67C0_67C0_67C0_67C0_67C0_67C0_67C0_67C0_67C0_67C0_67C0_67C0_67C0,
    0x67C0_67C0_67C0_67C0_67C0_67C0_67C0_67C0_67C0_67C0_67C0_67C0_67C0_67C0_67C0_67C0,
    0x67C0_67C0_67C0_67C0_67C0_67C0_67C0_67C0_67C0_67C0_67C0_67C0_67C0_67C0_67C0_67C0,
    0x67C0_67C0_67C0_67C0_67C0_67C0_67C0_67C0_67C0_67C0_67C0_67C0_67C0_67C0_67C0_67C0,
    0x67C0_67C0_67C0_67C0_67C0_67C0_67C0_67C0_67C0_67C0_67C0_67C0_67C0_67C0_67C0_67C0,
    0x67C0_67C0_67C0_67C0_67C0_67C0_67C0_67C0_67C0_67C0_67C0_67C0_67C0_67C0_67C0_67C0,
    0x67C0_67C0_67C0_67C0_67C0_67C0_67C0_67C0_67C0_67C0_67C0_67C0_67C0_67C0_67C0_67C0,
    0x67C0_67C0_67C0_67C0_67C0_67C0_67C0_67C0_67C0_67C0_67C0_67C0_67C0_67C0_67C0_67C0,
    0x67C0_67C0_67C0_67C0_67C0_67C0_67C0_67C0_67C0_67C0_67C0_67C0_67C0_67C0_67C0_67C0,
    0x67C0_67C0_67C0_67C0_67C0_67C0_67C0_67C0_67C0_67C0_67C0_67C0_67C0_67C0_67C0_67C0,
    0x67C0_67C0_67C0_67C0_67C0_67C0_67C0_67C0_67C0_67C0_67C0_67C0_67C0_67C0_67C0_67C0,
    0x67C0_67C0_67C0_67C0_67C0_67C0_67C0_67C0_67C0_67C0_67C0_67C0_67C0_67C0_67C0_67C0,
    0x67C0_67C0_67C0_67C0_67C0_67C0_67C0_67C0_67C0_67C0_67C0_67C0_67C0_67C0_67C0_67C0,
    0x67C0_67C0_67C0_67C0_67C0_67C0_67C0_67C0_67C0_67C0_67C0_67C0_67C0_67C0_67C0_67C0,
    0x67C0_67C0_67C0_67C0_67C0_67C0_67C0_67C0_67C0_67C0_67C0_67C0_67C0_67C0_67C0_67C0,
    0x67C0_67C0_67C0_67C0_67C0_67C0_67C0_67C0_67C0_67C0_67C0_67C0_67C0_67C0_67C0_67C0,
    0x67C0_67C0_67C0_67C0_67C0_67C0_67C0_67C0_67C0_67C0_67C0_67C0_67C0_67C0_67C0_67C0,
    0x67C0_67C0_67C0_67C0_67C0_67C0_67C0_67C0_67C0_67C0_67C0_67C0_67C8_67D0_67D0_67D8,
    0x67D8_67D8_67D8_67D8_67D8_67D8_67D8_67D8_67D8_67D8_67D8_67D8_67D8_67D8_67D8_67D8,
    0x67D8_67D8_67D8_67D8_67D8_67D8_67D8_67D8_67D8_67D8_67D8_67D8_67D8_67D8_67D8_67D8,
    0x67D8_67D8_67D8_67D8_67D8_67D8_67D8_67D8_67D8_67D8_67D8_67D8_67D8_67D8_67D8_67D8,
    0x67D8_67D8_67D8_67D8_67D8_67D8_67D8_67D8_67D8_67D8_67D8_67D8_67D8_67D8_67D8_67D8,
    0x67D8_67D8_67D8_67D8_67D8_67D8_67D8_67D8_67D8_67D8_67D8_67D8_67D8_67D8_67D8_67D8,
    0x67D8_67D8_67D8_67D8_67D8_67D8_67D8_67D8_67D8_67D8_67D8_67D8_67D8_67D8_67D8_67D8,
    0x67D8_67D8_67D8_67D8_67D8_67D8_67D8_67D8_67D8_67D8_67D8_67D8_67D8_67D8_67D8_67D8,
    0x67D8_67D8_67D8_67D8_67D8_67D8_67D8_67D8_67D8_67D8_67D8_67D8_67D8_67D8_67D8_67D8,
    0x67D8_67D8_67D8_67D8_67D8_67D8_67D8_67D8_67D8_67D8_67D8_67D8_67D8_67D8_67D8_67D8,
    0x67D8_67D8_67D8_67D8_67D8_67D8_67D8_67D8_67D8_67D8_67D8_67D8_67D8_67D8_67D8_67D8,
    0x67D8_67D8_67D8_67D8_67D8_67D8_67D8_67D8_67D8_67D8_67D8_67D8_67D8_67D8_67D8_67D8,
    0x67D8_67D8_67D8_67D8_67D8_67D8_67D8_67D8_67D8_67D8_67D8_67D8_67D8_67D8_67D8_67D8,
    0x67D8_67D8_67D8_67D8_67D8_67D8_67D8_67D8_67D8_67D8_67D8_67D8_67D8_67D8_67D8_67D8,
    0x67D8_67D8_67D8_67D8_67D8_67D8_67D8_67D8_67D8_67D8_67D8_67D8_67D8_67D8_67D8_67D8,
    0x67D8_67D8_67D8_67D8_67D8_67D8_67D8_67D8_67D8_67D8_67D8_67D8_67D8_67D8_67D8_67D8,
    0x67D8_67D8_67D8_67D8_67D8_67D8_67D8_67D8_67D8_67D8_67D8_67D8_67E0_67E8_67E8_67E8,
    0x67E8_67E8_67E8_67E8_67E8_67E8_67E8_67E8_67E8_67E8_67E8_67E8_67E8_67E8_67E8_67E8,
    0x67E8_67E8_67E8_67E8_67E8_67E8_67E8_67E8_67E8_67E8_67E8_67E8_67E8_67E8_67E8_67E8,
    0x67E8_67E8_67E8_67E8_67E8_67E8_67E8_67E8_67E8_67E8_67E8_67E8_67E8_67E8_67E8_67E8,
    0x67E8_67E8_67E8_67E8_67E8_67E8_67E8_67E8_67E8_67E8_67E8_67E8_67E8_67E8_67E8_67E8,
    0x67E8_67E8_67E8_67E8_67E8_67E8_67E8_67E8_67E8_67E8_67E8_67E8_67E8_67E8_67E8_67E8,
    0x67E8_67E8_67E8_67E8_67E8_67E8_67E8_67E8_67E8_67E8_67E8_67E8_67E8_67E8_67E8_67E8,
    0x67E8_67E8_67E8_67E8_67E8_67E8_67E8_67E8_67E8_67E8_67E8_67E8_67E8_67E8_67E8_67E8,
    0x67E8_67E8_67E8_67E8_67E8_67E8_67E8_67E8_67E8_67E8_67E8_67F0_67F0_67F0_67F0_67F0,
    0x67F0_67F0_67F0_67F0_67F0_67F0_67F0_67F0_67F0_67F0_67F0_67F0_67F0_67F0_67F0_67F0,
    0x67F0_67F0_67F0_67F0_67F0_67F0_67F0_67F0_67F0_67F0_67F0_67F0_67F0_67F0_67F0_67F0,
    0x67F0_67F0_67F0_67F0_67F0_67F0_67F0_67F0_67F0_67F0_67F0_67F0_67F0_67F0_67F0_67F0,
    0x67F0_67F0_67F0_67F0_67F0_67F0_67F0_67F0_67F0_67F0_67F0_67F0_67F0_67F0_67F0_67F0,
    0x67F0_67F0_67F0_67F0_67F0_67F0_67F0_67F0_67F0_67F0_67F0_67F0_67F0_67F0_67F0_67F0,
    0x67F0_67F0_67F0_67F0_67F0_67F0_67F0_67F0_67F0_67F0_67F0_67F0_67F0_67F0_67F0_67F0,
    0x67F0_67F0_67F0_67F0_67F0_67F0_67F0_67F0_67F0_67F0_67F0_67F0_67F0_67F0_67F0_67F0,
    0x67F0_67F0_67F0_67F0_67F0_67F0_67F0_67F0_67F0_67F0_67F0_67F0_67F0_67F0_67F0_67F0,
    0x67F0_67F0_67F0_67F0_67F0_67F0_67F0_67F0_67F0_67F0_67F0_67F0_67F0_67F0_67F0_67F0,
    0x67F0_67F0_67F0_67F0_67F0_67F0_67F0_67F0_67F0_67F0_67F0_67F0_67F0_67F0_67F0_67F0,
    0x67F0_67F0_67F0_67F0_67F0_67F0_67F0_67F0_67F0_67F0_67F0_67F0_67F0_67F0_67F0_67F0,
    0x67F0_67F0_67F0_67F0_67F0_67F0_67F0_67F0_67F0_67F0_67F0_67F0_67F0_67F0_67F0_67F0,
    0x67F0_67F0_67F0_67F0_67F0_67F0_67F0_67F0_67F0_67F0_67F0_67F0_67F0_67F0_67F0_67F0,
    0x67F0_67F0_67F0_67F0_67F0_67F0_67F0_67F0_67F0_67F0_67F0_67F0_67F0_67F0_67F0_67F0,
    0x67F0_67F0_67F0_67F0_67F0_67F0_67F0_67F0_67F0_67F0_67F0_67F0_67F0_67F0_67F0_67F0,
    0x67F0_67F0_67F0_67F0_67F0_67F0_67F0_67F0_67F0_67F0_67F0_67F0_67F0_67F0_67F0_67F0,
    0x67F0_67F0_67F0_67F0_67F0_67F0_67F0_67F0_67F0_67F0_67F0_67F0_67F0_67F0_67F0_67F0,
    0x67F0_67F0_67F0_67F0_67F0_67F0_67F0_67F0_67F0_67F0_67F0_67F0_67F0_67F0_67F0_67F0,
    0x67F0_67F0_67F8_6802_680A_6812_681A_6822_6828_6828_6828_6828_6828_6828_6828_6828,
    0x6828_6828_6828_6828_6828_6828_6828_6828_6828_6828_6828_6828_6828_6828_6828_6828,
    0x6828_6828_6828_6828_6828_6828_6828_6828_6828_6828_6828_6828_6828_6828_6828_6828,
    0x6828_6828_6828_6828_6828_6828_6828_6828_6828_6828_6828_6828_6828_6828_6828_6828,
    0x6828_6828_6828_6828_6828_6828_6828_6828_6828_6828_6828_6828_6828_6828_6828_6828,
    0x6828_6828_6828_6828_6828_6828_6828_6828_6828_6828_6828_6828_6828_6828_6828_6830,
    0x683A_6842_684A_6852_6858_6858_6858_6858_6858_6858_6858_6858_6858_6858_6858_6858,
    0x6858_6858_6858_6858_6858_6858_6858_6858_6858_6858_6858_6858_6858_6858_6858_6858,
    0x6858_6858_6858_6858_6858_6858_6858_6858_6858_6858_6858_6858_6858_6858_6858_6858,
    0x6858_6858_6858_6858_6858_6858_6858_6858_6858_6858_6858_6858_6858_6858_6858_6858,
    0x6858_6858_6858_6858_6859_685D_6861_6865_6869_686D_6871_6875_6879_687D_6881_6885,
    0x6889_688D_6891_6895_6899_689D_68A1_68A5_68A9_68AD_68B1_68B5_68B9_68BD_68C1_68C5,
    0x68C9_68CD_68D1_68D5_68D9_68DD_68E1_68E5_68E9_68ED_68F1_68F5_68F9_68FD_6901_6905,
    0x6909_690D_6911_6915_6919_691D_6921_6925_6929_692D_6931_6935_6939_693D_6941_6945,
    0x6949_694D_6951_6955_6959_695D_6961_6965_6969_696D_6971_6975_6979_697D_6981_6985,
    0x6989_698D_6991_6995_6999_699D_69A1_69A5_69A9_69AC_69AD_69B1_69B5_69B9_69BD_69C1,
    0x69C5_69C9_69CD_69D1_69D5_69D9_69DD_69E1_69E5_69E9_69ED_69F1_69F5_69F9_69FD_6A01,
    0x6A05_6A09_6A0D_6A11_6A15_6A19_6A1D_6A21_6A25_6A29_6A2D_6A31_6A35_6A39_6A3D_6A41,
    0x6A45_6A49_6A4D_6A51_6A55_6A59_6A5D_6A61_6A65_6A69_6A6D_6A71_6A75_6A79_6A7D_6A81,
    0x6A85_6A89_6A8D_6A91_6A95_6A99_6A9D_6AA1_6AA5_6AA9_6AAD_6AB1_6AB5_6AB9_6ABD_6AC1,
    0x6AC5_6AC8_6AC9_6ACD_6AD0_6AD0_6AD1_6AD4_6AD4_6AD5_6AD9_6ADC_6ADC_6ADD_6AE1_6AE5,
    0x6AE9_6AEC_6AED_6AF1_6AF5_6AF9_6AFD_6B01_6B05_6B09_6B0D_6B11_6B15_6B19_6B1C_6B1D,
    0x6B20_6B21_6B25_6B29_6B2D_6B31_6B35_6B39_6B3C_6B3D_6B41_6B45_6B49_6B4D_6B51_6B55,
    0x6B59_6B5D_6B61_6B65_6B69_6B6D_6B71_6B75_6B79_6B7D_6B81_6B85_6B89_6B8D_6B91_6B95,
    0x6B99_6B9D_6BA1_6BA5_6BA9_6BAD_6BB1_6BB5_6BB9_6BBD_6BC1_6BC5_6BC9_6BCD_6BD1_6BD5,
    0x6BD9_6BDD_6BE1_6BE5_6BE9_6BED_6BF1_6BF5_6BF9_6BFD_6C01_6C05_6C09_6C0D_6C11_6C15,
    0x6C19_6C1D_6C21_6C25_6C28_6C29_6C2D_6C31_6C35_6C39_6C3D_6C40_6C41_6C45_6C49_6C4D,
    0x6C50_6C50_6C51_6C55_6C59_6C5D_6C61_6C65_6C69_6C6D_6C70_6C71_6C75_6C79_6C7D_6C81,
    0x6C85_6C89_6C8C_6C8D_6C91_6C95_6C99_6C9D_6CA1_6CA5_6CA9_6CAD_6CB1_6CB5_6CB9_6CBD,
    0x6CC1_6CC5_6CC9_6CCD_6CD1_6CD5_6CD9_6CDD_6CE1_6CE5_6CE9_6CED_6CF1_6CF5_6CF9_6CFC,
    0x6CFD_6D01_6D05_6D09_6D0C_6D0D_6D11_6D15_6D19_6D1D_6D20_6D21_6D24_6D24_6D24_6D25,
    0x6D29_6D2D_6D31_6D35_6D39_6D3D_6D40_6D41_6D45_6D49_6D4D_6D51_6D55_6D59_6D5D_6D61,
    0x6D65_6D69_6D6D_6D71_6D75_6D79_6D7D_6D81_6D85_6D89_6D8D_6D91_6D95_6D99_6D9D_6DA1,
    0x6DA5_6DA9_6DAD_6DB1_6DB5_6DB9_6DBD_6DC1_6DC5_6DC9_6DCD_6DD1_6DD5_6DD9_6DDD_6DE1,
    0x6DE5_6DE9_6DED_6DF1_6DF5_6DF9_6DFD_6E01_6E05_6E09_6E0D_6E11_6E15_6E19_6E1D_6E21,
    0x6E25_6E29_6E2D_6E31_6E35_6E39_6E3D_6E41_6E45_6E49_6E4D_6E51_6E55_6E59_6E5D_6E61,
    0x6E65_6E69_6E6D_6E71_6E75_6E79_6E7D_6E81_6E85_6E89_6E8D_6E91_6E95_6E99_6E9D_6EA1,
    0x6EA5_6EA9_6EAD_6EB1_6EB5_6EB9_6EBD_6EC1_6EC5_6EC9_6ECD_6ED1_6ED5_6ED9_6EDD_6EE1,
    0x6EE5_6EE9_6EED_6EF1_6EF5_6EF9_6EFD_6F01_6F05_6F09_6F0D_6F11_6F15_6F19_6F1D_6F21,
    0x6F25_6F29_6F2D_6F31_6F35_6F39_6F3D_6F41_6F45_6F49_6F4D_6F51_6F55_6F59_6F5D_6F61,
    0x6F65_6F69_6F6D_6F71_6F75_6F79_6F7D_6F81_6F85_6F89_6F8D_6F91_6F95_6F99_6F9D_6FA1,
    0x6FA5_6FA9_6FAD_6FB1_6FB5_6FB9_6FBD_6FC1_6FC5_6FC9_6FCD_6FD1_6FD5_6FD9_6FDD_6FE1,
    0x6FE5_6FE9_6FED_6FF1_6FF5_6FF8_6FF9_6FFD_7001_7005_7009_700D_7011_7015_7019_701D,
    0x7021_7025_7029_702D_7031_7035_7039_703D_7041_7045_7049_704D_7051_7055_7059_705D,
    0x7061_7065_7069_706D_7071_7075_7079_707D_7081_7085_7089_708D_7091_7095_7099_709D,
    0x70A1_70A5_70A9_70AD_70B1_70B5_70B9_70BD_70C1_70C5_70C9_70CD_70D1_70D5_70D9_70DD,
    0x70E1_70E5_70E9_70ED_70F1_70F5_70F9_70FD_7101_7105_7109_710D_7111_7115_7119_711D,
    0x7121_7125_7129_712D_7131_7135_7139_713D_7141_7145_7149_714D_7151_7155_7159_715D,
    0x7161_7165_7169_716D_7171_7175_7179_717D_7181_7185_7189_718D_7191_7195_7199_719D,
    0x71A1_71A5_71A9_71AD_71B1_71B5_71B9_71BD_71C1_71C5_71C9_71CD_71D1_71D5_71D9_71DD,
    0x71E1_71E5_71E9_71ED_71F1_71F5_71F9_71FD_7201_7205_7209_720D_7211_7215_7219_721D,
    0x7221_7225_7229_722D_7231_7235_7239_723D_7241_7245_7249_724D_7251_7255_7259_725D,
    0x7261_7265_7269_726D_7271_7275_7279_727D_7281_7285_7289_728D_7290_7290_7291_7295,
    0x7299_729D_72A1_72A5_72A9_72AD_72B1_72B5_72B9_72BD_72C1_72C5_72C9_72CD_72D1_72D7,
    0x72D9_72DD_72E1_72E5_72E9_72ED_72F1_72F5_72F9_72FD_7301_7305_7309_730D_7311_7315,
    0x7319_731D_7321_7325_7329_732D_7331_7335_7339_733D_7341_7345_7349_734D_7351_7355,
    0x7359_735D_7363_7367_736B_736F_7373_7377_7379_737D_7381_7385_7389_738D_7391_7395,
    0x7399_739D_73A1_73A5_73A9_73AD_73B1_73B5_73B9_73BF_73C1_73C5_73C9_73CD_73D1_73D5,
    0x73D9_73DD_73E1_73E5_73E9_73ED_73F0_73F1_73F5_73F9_73FD_7401_7405_7409_740D_7411,
    0x7415_7419_741D_7421_7425_7429_742D_7431_7435_7439_743D_7441_7445_744B_744F_7453,
    0x7457_745B_745F_7461_7465_7469_746D_7471_7475_7479_747D_7481_7485_7489_748D_7491,
    0x7495_7499_749D_74A1_74A7_74A9_74AD_74B1_74B5_74B9_74BD_74C1_74C5_74C9_74CD_74D1,
    0x74D5_74D9_74DD_74E1_74E5_74E9_74ED_74F1_74F5_74F9_74FD_7501_7505_7509_750D_7511,
    0x7515_7519_751D_7521_7525_7529_752D_7533_7537_753B_753F_7543_7547_7549_754D_7551,
    0x7555_7559_755D_7561_7565_7569_756D_7571_7575_7579_757D_7581_7585_7589_758F_7591,
    0x7595_7599_759D_75A1_75A5_75A9_75AD_75B1_75B5_75B9_75BD_75C1_75C5_75C9_75CD_75D1,
    0x75D5_75D9_75DD_75E1_75E5_75E9_75ED_75F1_75F5_75F9_75FD_7601_7605_7609_760D_7611,
    0x7615_761B_761F_7623_7627_762B_762F_7631_7635_7639_763D_7641_7645_7649_764D_7651,
    0x7655_7659_765D_7661_7665_7669_766D_7671_7677_7679_767D_7681_7685_7689_768D_7691,
    0x7695_7699_769D_76A1_76A5_76A9_76AD_76B1_76B5_76B9_76BD_76C1_76C5_76C9_76CD_76D1,
    0x76D5_76D9_76DD_76E1_76E5_76E9_76ED_76F1_76F5_76F9_76FD_7703_7707_770B_770F_7713,
    0x7717_7719_771D_7720_7720_7721_7725_7729_772D_7731_7735_7739_773D_7741_7745_7749,
    0x774D_7751_7755_7759_775D_7761_7765_7769_776D_7771_7775_7779_777D_7781_7785_7789,
    0x778D_7791_7795_7799_779D_77A1_77A5_77A9_77AD_77B1_77B5_77B9_77BD_77C1_77C5_77C9,
    0x77CD_77D1_77D5_77D9_77DD_77E1_77E5_77E8_77E8_77E8_77E8_77E8_77E8_77E8_77E8_77E8,
    0x77E8_77E8_77E8_77E8_77E8_77E8_77E8_77E8_77E8_77E8_77E8_77E8_77E8_77E8_77E8_77E8,
    0x77E8_77E8_77E8_77E8_77E8_77E8_77E8_77E8_77E8_77E8_77E8_77E8_77E8_77E8_77E8_77E8,
    0x77E8_77E8_77E8_77E8_77E8_77E8_77E8_77E8_77E9_77ED_77F1_77F5_77F9_77FD_7801_7805,
    0x7809_780D_7811_7815_7819_781D_7821_7825_7829_782D_7831_7835_7839_783D_7841_7845,
    0x7849_784D_7851_7855_7859_785D_7861_7865_7869_786D_7871_7875_7879_787D_7881_7885,
    0x7889_788D_7891_7895_7899_789D_78A1_78A5_78A9_78AD_78B1_78B5_78B9_78BD_78C1_78C5,
    0x78C9_78CD_78D1_78D5_78D9_78DD_78E0_78E0_78E0_78E0_78E0_78E0_78E0_78E0_78E0_78E0,
    0x78E0_78E0_78E0_78E0_78E0_78E0_78E0_78E0_78E0_78E0_78E0_78E0_78E0_78E0_78E0_78E0,
    0x78E0_78E0_78E0_78E0_78E0_78E0_78E0_78E0_78E0_78E0_78E0_78E0_78E0_78E0_78E0_78E0,
    0x78E0_78E0_78E0_78E0_78E0_78E0_78E0_78E0_78E0_78E0_78E0_78E0_78E0_78E0_78E0_78E0,
    0x78E0_78E0_78E0_78E0_78E0_78E0_78E0_78E0_78E0_78E0_78E0_78E0_78E0_78E0_78E0_78E0,
    0x78E0_78E0_78E0_78E0_78E0_78E0_78E0_78E0_78E0_78E0_78E0_78E0_78E0_78E0_78E0_78E0,
    0x78E0_78E0_78E0_78E0_78E0_78E0_78E0_78E0_78E0_78E0_78E0_78E0_78E0_78E0_78E0_78E0,
    0x78E0_78E0_78E0_78E0_78E0_78E0_78E0_78E0_78E0_78E0_78E0_78E0_78E0_78E0_78E0_78E0,
    0x78E0_78E0_78E0_78E0_78E0_78E0_78E0_78E0_78E0_78E0_78E0_78E0_78E0_78E0_78E0_78E0,
    0x78E0_78E0_78E0_78E0_78E0_78E0_78E0_78E0_78E0_78E1_78E5_78E9_78ED_78F0_78F1_78F5,
    0x78F9_78FD_7901_7905_7909_790D_7911_7915_7919_791D_7921_7925_7929_792D_7931_7935,
    0x7939_793D_7941_7945_7949_794D_7951_7955_7959_795C_795D_7961_7964_7965_7968_7968,
    0x7969_796C_796D_7971_7975_7979_797D_7981_7985_7989_798D_7991_7994_7995_7999_799D,
    0x79A1_79A4_79A5_79A8_79A9_79AC_79AC_79AC_79AC_79AC_79AC_79AD_79B0_79B0_79B0_79B0,
    0x79B1_79B4_79B5_79B8_79B9_79BC_79BD_79C1_79C5_79C8_79C9_79CD_79D0_79D1_79D4_79D4,
    0x79D5_79D8_79D9_79DC_79DD_79E0_79E1_79E4_79E5_79E8_79E9_79ED_79F0_79F1_79F4_79F4,
    0x79F5_79F9_79FD_7A01_7A04_7A05_7A09_7A0D_7A11_7A15_7A19_7A1D_7A20_7A21_7A25_7A29,
    0x7A2D_7A30_7A31_7A35_7A39_7A3D_7A40_7A41_7A44_7A45_7A49_7A4D_7A51_7A55_7A59_7A5D,
    0x7A61_7A65_7A69_7A6C_7A6D_7A71_7A75_7A79_7A7D_7A81_7A85_7A89_7A8D_7A91_7A95_7A99,
    0x7A9D_7AA1_7AA5_7AA9_7AAD_7AB0_7AB0_7AB0_7AB0_7AB0_7AB1_7AB5_7AB9_7ABC_7ABD_7AC1,
    0x7AC5_7AC9_7ACD_7AD0_7AD1_7AD5_7AD9_7ADD_7AE1_7AE5_7AE9_7AED_7AF1_7AF5_7AF9_7AFD,
    0x7B01_7B05_7B09_7B0D_7B11_7B14_7B14_7B14_7B14_7B14_7B14_7B14_7B14_7B14_7B14_7B14,
    0x7B14_7B14_7B14_7B14_7B14_7B14_7B14_7B14_7B14_7B14_7B14_7B14_7B14_7B14_7B14_7B14,
    0x7B14_7B14_7B14_7B14_7B14_7B14_7B14_7B14_7B14_7B14_7B14_7B14_7B14_7B14_7B14_7B14,
    0x7B14_7B14_7B14_7B14_7B14_7B14_7B14_7B14_7B14_7B14_7B14_7B14_7B14_7B14_7B14_7B14,
    0x7B14_7B14_7B14_7B14_7B14_7B14_7B14_7B14_7B14_7B14_7B15_7B1D_7B25_7B2D_7B35_7B3D,
    0x7B45_7B4D_7B55_7B5D_7B65_7B6C_7B6C_7B6C_7B6C_7B6C_7B6D_7B79_7B85_7B91_7B9D_7BA9,
    0x7BB5_7BC1_7BCD_7BD9_7BE5_7BF1_7BFD_7C09_7C15_7C21_7C2D_7C39_7C45_7C51_7C5D_7C69,
    0x7C75_7C81_7C8D_7C99_7CA5_7CB1_7CB5_7CB9_7CC1_7CC8_7CC9_7CCD_7CD1_7CD5_7CD9_7CDD,
    0x7CE1_7CE5_7CE9_7CED_7CF1_7CF5_7CF9_7CFD_7D01_7D05_7D09_7D0D_7D11_7D15_7D19_7D1D,
    0x7D21_7D25_7D29_7D2D_7D31_7D39_7D41_7D49_7D51_7D5D_7D64_7D64_7D64_7D64_7D64_7D64,
    0x7D64_7D64_7D64_7D64_7D64_7D64_7D64_7D64_7D64_7D64_7D64_7D64_7D64_7D64_7D64_7D64,
    0x7D64_7D64_7D64_7D64_7D65_7D6D_7D75_7D7C_7D7C_7D7C_7D7C_7D7C_7D7C_7D7C_7D7C_7D7C,
    0x7D7C_7D7C_7D7C_7D7C_7D7C_7D7C_7D7C_7D7C_7D7C_7D7C_7D7C_7D7C_7D7C_7D7C_7D7C_7D7C,
    0x7D7C_7D7C_7D7C_7D7C_7D7C_7D7C_7D7C_7D7C_7D7C_7D7C_7D7D_7D84_7D84_7D84_7D84_7D84,
    0x7D84_7D84_7D84_7D84_7D84_7D84_7D84_7D84_7D84_7D84_7D84_7D84_7D84_7D84_7D84_7D84,
    0x7D84_7D84_7D84_7D84_7D84_7D84_7D84_7D84_7D84_7D84_7D84_7D84_7D84_7D84_7D84_7D84,
    0x7D84_7D84_7D84_7D84_7D84_7D84_7D84_7D84_7D84_7D84_7D84_7D84_7D84_7D84_7D84_7D84,
    0x7D84_7D84_7D84_7D84_7D84_7D84_7D84_7D84_7D84_7D84_7D84_7D84_7D84_7D84_7D84_7D84,
    0x7D84_7D84_7D84_7D84_7D84_7D84_7D84_7D84_7D84_7D84_7D84_7D84_7D84_7D84_7D84_7D84,
    0x7D84_7D84_7D84_7D84_7D84_7D84_7D84_7D84_7D84_7D84_7D84_7D84_7D84_7D84_7D84_7D84,
    0x7D84_7D84_7D84_7D84_7D84_7D84_7D84_7D84_7D84_7D84_7D84_7D85_7D8D_7D95_7D98_7D98,
    0x7D98_7D98_7D98_7D98_7D98_7D98_7D98_7D98_7D98_7D98_7D98_7D99_7D9D_7DA1_7DA7_7DA9,
    0x7DAD_7DB1_7DB5_7DB9_7DBD_7DC1_7DC5_7DC9_7DCD_7DD1_7DD5_7DD9_7DDD_7DE1_7DE5_7DE9,
    0x7DED_7DF1_7DF5_7DF9_7DFD_7E01_7E05_7E09_7E0D_7E11_7E15_7E19_7E1D_7E21_7E25_7E29,
    0x7E2D_7E31_7E35_7E39_7E3D_7E41_7E45_7E48_7E48_7E48_7E48_7E49_7E55_7E61_7E6D_7E79,
    0x7E85_7E91_7E9D_7EA9_7EB4_7EB4_7EB4_7EB4_7EB4_7EB4_7EB4_7EB5_7EB9_7EBC_7EBC_7EBC,
    0x7EBC_7EBC_7EBC_7EBC_7EBC_7EBC_7EBC_7EBC_7EBC_7EBC_7EBC_7EBC_7EBC_7EBC_7EBC_7EBC,
    0x7EBC_7EBC_7EBC_7EBC_7EBC_7EBC_7EBC_7EBC_7EBC_7EBC_7EBC_7EBC_7EBC_7EBC_7EBC_7EBC,
    0x7EBC_7EBC_7EBC_7EBC_7EBC_7EBC_7EBC_7EBC_7EBC_7EBC_7EBC_7EBC_7EBC_7EBC_7EBC_7EBC,
    0x7EBC_7EBC_7EBC_7EBC_7EBC_7EBC_7EBC_7EBC_7EBC_7EBC_7EBC_7EBC_7EBC_7EBC_7EBC_7EBC,
    0x7EBC_7EBC_7EBC_7EBC_7EBC_7EBC_7EBC_7EBC_7EBC_7EBC_7EBC_7EBC_7EBC_7EBC_7EBC_7EBC,
    0x7EBC_7EBC_7EBC_7EBC_7EBC_7EBC_7EBC_7EBC_7EBC_7EBC_7EBC_7EBC_7EBC_7EBC_7EBC_7EBC,
    0x7EBC_7EBC_7EBC_7EBC_7EBC_7EBC_7EBC_7EBC_7EBC_7EBC_7EBC_7EBC_7EBC_7EBC_7EBC_7EBC,
    0x7EBC_7EBC_7EBC_7EBC_7EBC_7EBC_7EBC_7EBC_7EBC_7EBC_7EBC_7EBC_7EBC_7EBC_7EBC_7EBC,
    0x7EBC_7EBC_7EBC_7EBC_7EBC_7EBC_7EBC_7EBC_7EBC_7EBC_7EBC_7EBC_7EBC_7EBC_7EBC_7EBC,
    0x7EBC_7EBC_7EBC_7EBC_7EBC_7EBC_7EBC_7EBC_7EBC_7EBC_7EBC_7EBC_7EBC_7EBC_7EBC_7EBC,
    0x7EBC_7EBC_7EBC_7EBC_7EBC_7EBC_7EBC_7EBC_7EBC_7EBC_7EBC_7EBC_7EBC_7EBC_7EBC_7EBC,
    0x7EBC_7EBC_7EBC_7EBC_7EBC_7EBC_7EBC_7EBC_7EBC_7EBC_7EBC_7EBC_7EBC_7EBC_7EBC_7EBC,
    0x7EBC_7EBC_7EBC_7EBC_7EBC_7EBC_7EBC_7EBC_7EBC_7EBC_7EBC_7EBC_7EBC_7EBC_7EBC_7EBC,
    0x7EBC_7EBC_7EBC_7EBC_7EBC_7EBC_7EBC_7EBC_7EBC_7EBC_7EBC_7EBC_7EBC_7EBC_7EBC_7EBC,
    0x7EBC_7EBC_7EBC_7EBC_7EBC_7EBC_7EBC_7EBC_7EBC_7EBC_7EBC_7EBC_7EBC_7EBC_7EBC_7EBC,
    0x7EBC_7EBC_7EBC_7EBC_7EBC_7EBC_7EBC_7EBC_7EBC_7EBC_7EBC_7EBC_7EBC_7EBC_7EBC_7EBC,
    0x7EBC_7EBC_7EBC_7EBC_7EBC_7EBC_7EBC_7EBC_7EBC_7EBC_7EBC_7EBC_7EBC_7EBC_7EBC_7EBC,
    0x7EBC_7EBC_7EBC_7EBC_7EBC_7EBC_7EBC_7EBC_7EBC_7EBC_7EBC_7EBC_7EBC_7EBC_7EBC_7EBC,
    0x7EBC_7EBC_7EBC_7EBC_7EBC_7EBC_7EBC_7EBC_7EBC_7EBC_7EBC_7EBC_7EBC_7EBC_7EBC_7EBC,
    0x7EBC_7EBC_7EBC_7EBC_7EBC_7EBC_7EBC_7EBC_7EBC_7EBC_7EBC_7EBC_7EBC_7EBC_7EBC_7EBC,
    0x7EBC_7EBC_7EBC_7EBC_7EBC_7EBC_7EBC_7EBC_7EBC_7EBC_7EBC_7EBC_7EBC_7EBC_7EBC_7EBC,
    0x7EBC_7EBC_7EBC_7EBC_7EBC_7EBC_7EBC_7EBC_7EBC_7EBC_7EBC_7EBC_7EBC_7EBC_7EBC_7EBC,
    0x7EBC_7EBC_7EBC_7EBC_7EBC_7EBC_7EBC_7EBC_7EBC_7EBC_7EBC_7EBC_7EBC_7EBC_7EBC_7EBC,
    0x7EBC_7EBC_7EBC_7EBC_7EBC_7EBC_7EBC_7EBC_7EBC_7EBC_7EBC_7EBC_7EBC_7EBC_7EBC_7EBC,
    0x7EBC_7EBC_7EBC_7EBC_7EBC_7EBC_7EBC_7EBC_7EBC_7EBC_7EBC_7EBC_7EBC_7EBC_7EBC_7EBC,
    0x7EBC_7EBC_7EBC_7EBC_7EBC_7EBC_7EBC_7EBC_7EBC_7EBC_7EBC_7EBC_7EBD_7EC1_7EC5_7EC9,
    0x7ECD_7ED1_7ED5_7ED9_7EDD_7EE1_7EE4_7EE4_7EE4_7EE4_7EE4_7EE4_7EE4_7EE4_7EE8_7EEC,
    0x7EF0_7EF4_7EF8_7EFC_7F00_7F04_7F08_7F0C_7F10_7F14_7F18_7F1C_7F20_7F24_7F28_7F2C,
    0x7F30_7F34_7F38_7F3C_7F40_7F44_7F48_7F4C_7F50_7F54_7F58_7F5C_7F60_7F64_7F68_7F6C,
    0x7F70_7F74_7F78_7F7C_7F80_7F84_7F88_7F8C_7F90_7F94_7F98_7F9C_7FA0_7FA4_7FA8_7FAC,
    0x7FB0_7FB4_7FB8_7FBC_7FC0_7FC4_7FC8_7FCC_7FD0_7FD4_7FD8_7FDC_7FE0_7FE4_7FE8_7FEC,
    0x7FF0_7FF4_7FF8_7FFC_8000_8004_8008_800C_8010_8014_8018_801C_8020_8024_8028_802C,
    0x8030_8034_8038_803C_8040_8044_8048_804C_8050_8054_8058_805C_8060_8064_8068_806C,
    0x8070_8074_8078_807C_8080_8084_8088_808C_8090_8094_8098_809C_80A0_80A4_80A8_80AC,
    0x80B0_80B4_80B8_80BC_80C0_80C4_80C8_80CC_80D0_80D4_80D8_80DC_80E0_80E4_80E8_80EC,
    0x80F0_80F4_80F8_80FC_8100_8104_8108_810C_8110_8114_8118_811C_8120_8124_8128_812C,
    0x8130_8134_8138_813C_8140_8144_8148_814C_8150_8154_8158_815C_8160_8164_8168_816C,
    0x8170_8174_8178_817C_8180_8184_8188_818C_8190_8194_8198_819C_81A0_81A4_81A8_81AC,
    0x81B0_81B4_81B8_81BC_81C0_81C4_81C8_81CC_81D0_81D4_81D8_81DC_81E0_81E4_81E8_81EC,
    0x81F0_81F4_81F8_81FC_8200_8204_8208_820C_8210_8214_8218_821C_8220_8224_8228_822C,
    0x8230_8234_8238_823C_8240_8244_8248_824C_8250_8254_8258_825C_8260_8264_8268_826C,
    0x8270_8274_8278_827C_8280_8284_8288_828C_8290_8294_8298_829C_82A0_82A4_82A8_82AC,
    0x82B0_82B4_82B8_82BC_82C0_82C4_82C8_82CC_82D0_82D4_82D8_82DC_82E0_82E4_82E4_82E8,
    0x82EC_82F0_82F4_82F8_82FC_8300_8304_8308_830C_8310_8314_8318_831C_8320_8324_8328,
    0x832C_8330_8334_8338_833C_8340_8344_8348_834C_8350_8354_8358_835C_8360_8364_8368,
    0x836C_8370_8374_8378_837C_8380_8384_8388_838C_8390_8394_8398_839C_83A0_83A4_83A8,
    0x83AC_83B0_83B4_83B8_83BC_83C0_83C4_83C8_83CC_83D0_83D4_83D8_83DC_83E0_83E4_83E8,
    0x83EC_83F0_83F4_83F8_83FC_8400_8404_8408_840C_8410_8414_8418_841C_8420_8424_8428,
    0x842C_8430_8434_8438_843C_8440_8444_8448_844C_8450_8454_8458_845C_8460_8464_8468,
    0x846C_8470_8474_8478_847C_8480_8484_8488_848C_8490_8494_8498_849C_84A0_84A4_84A8,
    0x84AC_84B0_84B4_84B8_84BC_84C0_84C4_84C8_84CC_84D0_84D4_84D8_84DC_84E0_84E4_84E8,
    0x84EC_84F0_84F4_84F8_84FC_8500_8504_8508_850C_8510_8514_8518_851C_8520_8524_8528,
    0x852C_8530_8534_8538_853C_8540_8544_8548_854C_8550_8554_8558_855C_8560_8564_8568,
    0x856C_8570_8574_8578_857C_8580_8584_8588_858C_8590_8594_8598_859C_85A0_85A4_85A8,
    0x85AC_85B0_85B4_85B8_85BC_85C0_85C4_85C8_85CC_85D0_85D4_85D8_85DC_85E0_85E4_85E8,
    0x85EC_85F0_85F4_85F8_85FC_8600_8604_8608_860C_8610_8614_8618_861C_8620_8624_8628,
    0x862C_8630_8634_8638_863C_8640_8644_8648_864C_8650_8654_8658_865C_8660_8664_8668,
    0x866C_8670_8674_8678_867C_8680_8684_8688_868C_8690_8694_8698_869C_86A0_86A4_86A8,
    0x86AC_86B0_86B4_86B8_86BC_86C0_86C4_86C8_86CC_86D0_86D4_86D8_86DC_86E0_86E4_86E4,
    0x86E8_86EC_86F0_86F4_86F8_86FC_8700_8704_8708_870C_8710_8714_8718_871C_8720_8724,
    0x8728_872C_8730_8734_8738_873C_8740_8744_8748_874C_8750_8754_8758_875C_875C_875C,
    0x875C_875C_875C_875C_875C_875C_875C_875C_875C_875C_875C_875C_875C_875C_875C_875C,
    0x875C_875C_875C_875C_875C_875C_875C_875C_875C_875C_875C_875C_875C_875C_875C_875C,
    0x875C_875C_875C_875C_875C_875C_875C_875C_875C_875C_875C_875C_875C_875C_875C_875C,
    0x875C_875C_875C_875C_875C_875C_875C_875C_875C_875C_875C_875C_875C_875C_875C_875C,
    0x875C_875C_875C_875C_875C_875C_875C_875C_875C_875C_875C_875C_875C_875C_875C_875C,
    0x875C_875C_875C_875C_875C_875C_875C_875C_875C_875C_875C_875C_875C_875C_875C_875C,
    0x875C_875C_875C_875C_875C_875C_875C_875C_875C_875C_875C_875C_875C_875C_875C_875C,
    0x875C_875C_875C_875C_875C_875C_875C_875C_875C_875C_875C_875C_875C_875C_875C_875C,
    0x875C_875C_875C_875C_875C_875C_875C_875C_875C_875C_875C_875C_875C_875C_875C_875C,
    0x875C_875C_875C_875C_875C_875C_875C_875C_875C_875C_875C_875C_875C_875C_875C_875C,
    0x875C_875C_875C_875C_875C_875C_875C_875C_875C_875C_875C_875C_875C_875C_875C_875C,
    0x875C_875C_875C_875C_875C_875C_875C_875C_875C_875C_875C_875C_875C_875C_875C_875C,
    0x875C_875C_875C_875C_875C_875C_875C_875C_875C_875C_875C_875C_875C_875C_875C_875C,
    0x875C_875C_875C_875C_875C_875C_875C_875C_875C_875C_875C_875C_875C_875C_875C_875C]

def decompositionCodes : Packed 24 8663 := .ofRows 12 [
  0x000020_000020_000308_000061_000020_000304_000032_000033_000020_000301_0003BC,
  0x000020_000327_000031_00006F_000031_002044_000034_000031_002044_000032_000033_002044,
  0x000034_000041_000300_000041_000301_000041_000302_000041_000303_000041_000308_000041,
  0x00030A_000043_000327_000045_000300_000045_000301_000045_000302_000045_000308_000049,
  0x000300_000049_000301_000049_000302_000049_000308_00004E_000303_00004F_000300_00004F,
  0x000301_00004F_000302_00004F_000303_00004F_000308_000055_000300_000055_000301_000055,
  0x000302_000055_000308_000059_000301_000061_000300_000061_000301_000061_000302_000061,
  0x000303_000061_000308_000061_00030A_000063_000327_000065_000300_000065_000301_000065,
  0x000302_000065_000308_000069_000300_000069_000301_000069_000302_000069_000308_00006E,
  0x000303_00006F_000300_00006F_000301_00006F_000302_00006F_000303_00006F_000308_000075,
  0x000300_000075_000301_000075_000302_000075_000308_000079_000301_000079_000308_000041,
  0x000304_000061_000304_000041_000306_000061_000306_000041_000328_000061_000328_000043,
  0x000301_000063_000301_000043_000302_000063_000302_000043_000307_000063_000307_000043,
  0x00030C_000063_00030C_000044_00030C_000064_00030C_000045_000304_000065_000304_000045,
  0x000306_000065_000306_000045_000307_000065_000307_000045_000328_000065_000328_000045,
  0x00030C_000065_00030C_000047_000302_000067_000302_000047_000306_000067_000306_000047,
  0x000307_000067_000307_000047_000327_000067_000327_000048_000302_000068_000302_000049,
  0x000303_000069_000303_000049_000304_000069_000304_000049_000306_000069_000306_000049,
  0x000328_000069_000328_000049_000307_000049_00004A_000069_00006A_00004A_000302_00006A,
  0x000302_00004B_000327_00006B_000327_00004C_000301_00006C_000301_00004C_000327_00006C,
  0x000327_00004C_00030C_00006C_00030C_00004C_0000B7_00006C_0000B7_00004E_000301_00006E,
  0x000301_00004E_000327_00006E_000327_00004E_00030C_00006E_00030C_0002BC_00006E_00004F,
  0x000304_00006F_000304_00004F_000306_00006F_000306_00004F_00030B_00006F_00030B_000052,
  0x000301_000072_000301_000052_000327_000072_000327_000052_00030C_000072_00030C_000053,
  0x000301_000073_000301_000053_000302_000073_000302_000053_000327_000073_000327_000053,
  0x00030C_000073_00030C_000054_000327_000074_000327_000054_00030C_000074_00030C_000055,
  0x000303_000075_000303_000055_000304_000075_000304_000055_000306_000075_000306_000055,
  0x00030A_000075_00030A_000055_00030B_000075_00030B_000055_000328_000075_000328_000057,
  0x000302_000077_000302_000059_000302_000079_000302_000059_000308_00005A_000301_00007A,
  0x000301_00005A_000307_00007A_000307_00005A_00030C_00007A_00030C_000073_00004F_00031B,
  0x00006F_00031B_000055_00031B_000075_00031B_000044_00017D_000044_00017E_000064_00017E,
  0x00004C_00004A_00004C_00006A_00006C_00006A_00004E_00004A_00004E_00006A_00006E_00006A,
  0x000041_00030C_000061_00030C_000049_00030C_000069_00030C_00004F_00030C_00006F_00030C,
  0x000055_00030C_000075_00030C_0000DC_000304_0000FC_000304_0000DC_000301_0000FC_000301,
  0x0000DC_00030C_0000FC_00030C_0000DC_000300_0000FC_000300_0000C4_000304_0000E4_000304,
  0x000226_000304_000227_000304_0000C6_000304_0000E6_000304_000047_00030C_000067_00030C,
  0x00004B_00030C_00006B_00030C_00004F_000328_00006F_000328_0001EA_000304_0001EB_000304,
  0x0001B7_00030C_000292_00030C_00006A_00030C_000044_00005A_000044_00007A_000064_00007A,
  0x000047_000301_000067_000301_00004E_000300_00006E_000300_0000C5_000301_0000E5_000301,
  0x0000C6_000301_0000E6_000301_0000D8_000301_0000F8_000301_000041_00030F_000061_00030F,
  0x000041_000311_000061_000311_000045_00030F_000065_00030F_000045_000311_000065_000311,
  0x000049_00030F_000069_00030F_000049_000311_000069_000311_00004F_00030F_00006F_00030F,
  0x00004F_000311_00006F_000311_000052_00030F_000072_00030F_000052_000311_000072_000311,
  0x000055_00030F_000075_00030F_000055_000311_000075_000311_000053_000326_000073_000326,
  0x000054_000326_000074_000326_000048_00030C_000068_00030C_000041_000307_000061_000307,
  0x000045_000327_000065_000327_0000D6_000304_0000F6_000304_0000D5_000304_0000F5_000304,
  0x00004F_000307_00006F_000307_00022E_000304_00022F_000304_000059_000304_000079_000304,
  0x000068_000266_00006A_000072_000279_00027B_000281_000077_000079_000020_000306_000020,
  0x000307_000020_00030A_000020_000328_000020_000303_000020_00030B_000263_00006C_000073,
  0x000078_000295_000300_000301_000313_000308_000301_0002B9_000020_000345_00003B_000020,
  0x000301_0000A8_000301_000391_000301_0000B7_000395_000301_000397_000301_000399_000301,
  0x00039F_000301_0003A5_000301_0003A9_000301_0003CA_000301_000399_000308_0003A5_000308,
  0x0003B1_000301_0003B5_000301_0003B7_000301_0003B9_000301_0003CB_000301_0003B9_000308,
  0x0003C5_000308_0003BF_000301_0003C5_000301_0003C9_000301_0003B2_0003B8_0003A5_0003D2,
  0x000301_0003D2_000308_0003C6_0003C0_0003BA_0003C1_0003C2_000398_0003B5_0003A3_000415,
  0x000300_000415_000308_000413_000301_000406_000308_00041A_000301_000418_000300_000423,
  0x000306_000418_000306_000438_000306_000435_000300_000435_000308_000433_000301_000456,
  0x000308_00043A_000301_000438_000300_000443_000306_000474_00030F_000475_00030F_000416,
  0x000306_000436_000306_000410_000306_000430_000306_000410_000308_000430_000308_000415,
  0x000306_000435_000306_0004D8_000308_0004D9_000308_000416_000308_000436_000308_000417,
  0x000308_000437_000308_000418_000304_000438_000304_000418_000308_000438_000308_00041E,
  0x000308_00043E_000308_0004E8_000308_0004E9_000308_00042D_000308_00044D_000308_000423,
  0x000304_000443_000304_000423_000308_000443_000308_000423_00030B_000443_00030B_000427,
  0x000308_000447_000308_00042B_000308_00044B_000308_000565_000582_000627_000653_000627,
  0x000654_000648_000654_000627_000655_00064A_000654_000627_000674_000648_000674_0006C7,
  0x000674_00064A_000674_0006D5_000654_0006C1_000654_0006D2_000654_000928_00093C_000930,
  0x00093C_000933_00093C_000915_00093C_000916_00093C_000917_00093C_00091C_00093C_000921,
  0x00093C_000922_00093C_00092B_00093C_00092F_00093C_0009C7_0009BE_0009C7_0009D7_0009A1,
  0x0009BC_0009A2_0009BC_0009AF_0009BC_000A32_000A3C_000A38_000A3C_000A16_000A3C_000A17,
  0x000A3C_000A1C_000A3C_000A2B_000A3C_000B47_000B56_000B47_000B3E_000B47_000B57_000B21,
  0x000B3C_000B22_000B3C_000B92_000BD7_000BC6_000BBE_000BC7_000BBE_000BC6_000BD7_000C46,
  0x000C56_000CBF_000CD5_000CC6_000CD5_000CC6_000CD6_000CC6_000CC2_000CCA_000CD5_000D46,
  0x000D3E_000D47_000D3E_000D46_000D57_000DD9_000DCA_000DD9_000DCF_000DDC_000DCA_000DD9,
  0x000DDF_000E4D_000E32_000ECD_000EB2_000EAB_000E99_000EAB_000EA1_000F0B_000F42_000FB7,
  0x000F4C_000FB7_000F51_000FB7_000F56_000FB7_000F5B_000FB7_000F40_000FB5_000F71_000F72,
  0x000F71_000F74_000FB2_000F80_000FB2_000F81_000FB3_000F80_000FB3_000F81_000F71_000F80,
  0x000F92_000FB7_000F9C_000FB7_000FA1_000FB7_000FA6_000FB7_000FAB_000FB7_000F90_000FB5,
  0x001025_00102E_0010DC_001B05_001B35_001B07_001B35_001B09_001B35_001B0B_001B35_001B0D,
  0x001B35_001B11_001B35_001B3A_001B35_001B3C_001B35_001B3E_001B35_001B3F_001B35_001B42,
  0x001B35_000041_0000C6_000042_000044_000045_00018E_000047_000048_000049_00004A_00004B,
  0x00004C_00004D_00004E_00004F_000222_000050_000052_000054_000055_000057_000061_000250,
  0x000251_001D02_000062_000064_000065_000259_00025B_00025C_000067_00006B_00006D_00014B,
  0x00006F_000254_001D16_001D17_000070_000074_000075_001D1D_00026F_000076_001D25_0003B2,
  0x0003B3_0003B4_0003C6_0003C7_000069_000072_000075_000076_0003B2_0003B3_0003C1_0003C6,
  0x0003C7_00043D_000252_000063_000255_0000F0_00025C_000066_00025F_000261_000265_000268,
  0x000269_00026A_001D7B_00029D_00026D_001D85_00029F_000271_000270_000272_000273_000274,
  0x000275_000278_000282_000283_0001AB_000289_00028A_001D1C_00028B_00028C_00007A_000290,
  0x000291_000292_0003B8_000041_000325_000061_000325_000042_000307_000062_000307_000042,
  0x000323_000062_000323_000042_000331_000062_000331_0000C7_000301_0000E7_000301_000044,
  0x000307_000064_000307_000044_000323_000064_000323_000044_000331_000064_000331_000044,
  0x000327_000064_000327_000044_00032D_000064_00032D_000112_000300_000113_000300_000112,
  0x000301_000113_000301_000045_00032D_000065_00032D_000045_000330_000065_000330_000228,
  0x000306_000229_000306_000046_000307_000066_000307_000047_000304_000067_000304_000048,
  0x000307_000068_000307_000048_000323_000068_000323_000048_000308_000068_000308_000048,
  0x000327_000068_000327_000048_00032E_000068_00032E_000049_000330_000069_000330_0000CF,
  0x000301_0000EF_000301_00004B_000301_00006B_000301_00004B_000323_00006B_000323_00004B,
  0x000331_00006B_000331_00004C_000323_00006C_000323_001E36_000304_001E37_000304_00004C,
  0x000331_00006C_000331_00004C_00032D_00006C_00032D_00004D_000301_00006D_000301_00004D,
  0x000307_00006D_000307_00004D_000323_00006D_000323_00004E_000307_00006E_000307_00004E,
  0x000323_00006E_000323_00004E_000331_00006E_000331_00004E_00032D_00006E_00032D_0000D5,
  0x000301_0000F5_000301_0000D5_000308_0000F5_000308_00014C_000300_00014D_000300_00014C,
  0x000301_00014D_000301_000050_000301_000070_000301_000050_000307_000070_000307_000052,
  0x000307_000072_000307_000052_000323_000072_000323_001E5A_000304_001E5B_000304_000052,
  0x000331_000072_000331_000053_000307_000073_000307_000053_000323_000073_000323_00015A,
  0x000307_00015B_000307_000160_000307_000161_000307_001E62_000307_001E63_000307_000054,
  0x000307_000074_000307_000054_000323_000074_000323_000054_000331_000074_000331_000054,
  0x00032D_000074_00032D_000055_000324_000075_000324_000055_000330_000075_000330_000055,
  0x00032D_000075_00032D_000168_000301_000169_000301_00016A_000308_00016B_000308_000056,
  0x000303_000076_000303_000056_000323_000076_000323_000057_000300_000077_000300_000057,
  0x000301_000077_000301_000057_000308_000077_000308_000057_000307_000077_000307_000057,
  0x000323_000077_000323_000058_000307_000078_000307_000058_000308_000078_000308_000059,
  0x000307_000079_000307_00005A_000302_00007A_000302_00005A_000323_00007A_000323_00005A,
  0x000331_00007A_000331_000068_000331_000074_000308_000077_00030A_000079_00030A_000061,
  0x0002BE_00017F_000307_000041_000323_000061_000323_000041_000309_000061_000309_0000C2,
  0x000301_0000E2_000301_0000C2_000300_0000E2_000300_0000C2_000309_0000E2_000309_0000C2,
  0x000303_0000E2_000303_001EA0_000302_001EA1_000302_000102_000301_000103_000301_000102,
  0x000300_000103_000300_000102_000309_000103_000309_000102_000303_000103_000303_001EA0,
  0x000306_001EA1_000306_000045_000323_000065_000323_000045_000309_000065_000309_000045,
  0x000303_000065_000303_0000CA_000301_0000EA_000301_0000CA_000300_0000EA_000300_0000CA,
  0x000309_0000EA_000309_0000CA_000303_0000EA_000303_001EB8_000302_001EB9_000302_000049,
  0x000309_000069_000309_000049_000323_000069_000323_00004F_000323_00006F_000323_00004F,
  0x000309_00006F_000309_0000D4_000301_0000F4_000301_0000D4_000300_0000F4_000300_0000D4,
  0x000309_0000F4_000309_0000D4_000303_0000F4_000303_001ECC_000302_001ECD_000302_0001A0,
  0x000301_0001A1_000301_0001A0_000300_0001A1_000300_0001A0_000309_0001A1_000309_0001A0,
  0x000303_0001A1_000303_0001A0_000323_0001A1_000323_000055_000323_000075_000323_000055,
  0x000309_000075_000309_0001AF_000301_0001B0_000301_0001AF_000300_0001B0_000300_0001AF,
  0x000309_0001B0_000309_0001AF_000303_0001B0_000303_0001AF_000323_0001B0_000323_000059,
  0x000300_000079_000300_000059_000323_000079_000323_000059_000309_000079_000309_000059,
  0x000303_000079_000303_0003B1_000313_0003B1_000314_001F00_000300_001F01_000300_001F00,
  0x000301_001F01_000301_001F00_000342_001F01_000342_000391_000313_000391_000314_001F08,
  0x000300_001F09_000300_001F08_000301_001F09_000301_001F08_000342_001F09_000342_0003B5,
  0x000313_0003B5_000314_001F10_000300_001F11_000300_001F10_000301_001F11_000301_000395,
  0x000313_000395_000314_001F18_000300_001F19_000300_001F18_000301_001F19_000301_0003B7,
  0x000313_0003B7_000314_001F20_000300_001F21_000300_001F20_000301_001F21_000301_001F20,
  0x000342_001F21_000342_000397_000313_000397_000314_001F28_000300_001F29_000300_001F28,
  0x000301_001F29_000301_001F28_000342_001F29_000342_0003B9_000313_0003B9_000314_001F30,
  0x000300_001F31_000300_001F30_000301_001F31_000301_001F30_000342_001F31_000342_000399,
  0x000313_000399_000314_001F38_000300_001F39_000300_001F38_000301_001F39_000301_001F38,
  0x000342_001F39_000342_0003BF_000313_0003BF_000314_001F40_000300_001F41_000300_001F40,
  0x000301_001F41_000301_00039F_000313_00039F_000314_001F48_000300_001F49_000300_001F48,
  0x000301_001F49_000301_0003C5_000313_0003C5_000314_001F50_000300_001F51_000300_001F50,
  0x000301_001F51_000301_001F50_000342_001F51_000342_0003A5_000314_001F59_000300_001F59,
  0x000301_001F59_000342_0003C9_000313_0003C9_000314_001F60_000300_001F61_000300_001F60,
  0x000301_001F61_000301_001F60_000342_001F61_000342_0003A9_000313_0003A9_000314_001F68,
  0x000300_001F69_000300_001F68_000301_001F69_000301_001F68_000342_001F69_000342_0003B1,
  0x000300_0003AC_0003B5_000300_0003AD_0003B7_000300_0003AE_0003B9_000300_0003AF_0003BF,
  0x000300_0003CC_0003C5_000300_0003CD_0003C9_000300_0003CE_001F00_000345_001F01_000345,
  0x001F02_000345_001F03_000345_001F04_000345_001F05_000345_001F06_000345_001F07_000345,
  0x001F08_000345_001F09_000345_001F0A_000345_001F0B_000345_001F0C_000345_001F0D_000345,
  0x001F0E_000345_001F0F_000345_001F20_000345_001F21_000345_001F22_000345_001F23_000345,
  0x001F24_000345_001F25_000345_001F26_000345_001F27_000345_001F28_000345_001F29_000345,
  0x001F2A_000345_001F2B_000345_001F2C_000345_001F2D_000345_001F2E_000345_001F2F_000345,
  0x001F60_000345_001F61_000345_001F62_000345_001F63_000345_001F64_000345_001F65_000345,
  0x001F66_000345_001F67_000345_001F68_000345_001F69_000345_001F6A_000345_001F6B_000345,
  0x001F6C_000345_001F6D_000345_001F6E_000345_001F6F_000345_0003B1_000306_0003B1_000304,
  0x001F70_000345_0003B1_000345_0003AC_000345_0003B1_000342_001FB6_000345_000391_000306,
  0x000391_000304_000391_000300_000386_000391_000345_000020_000313_0003B9_000020_000313,
  0x000020_000342_0000A8_000342_001F74_000345_0003B7_000345_0003AE_000345_0003B7_000342,
  0x001FC6_000345_000395_000300_000388_000397_000300_000389_000397_000345_001FBF_000300,
  0x001FBF_000301_001FBF_000342_0003B9_000306_0003B9_000304_0003CA_000300_000390_0003B9,
  0x000342_0003CA_000342_000399_000306_000399_000304_000399_000300_00038A_001FFE_000300,
  0x001FFE_000301_001FFE_000342_0003C5_000306_0003C5_000304_0003CB_000300_0003B0_0003C1,
  0x000313_0003C1_000314_0003C5_000342_0003CB_000342_0003A5_000306_0003A5_000304_0003A5,
  0x000300_00038E_0003A1_000314_0000A8_000300_000385_000060_001F7C_000345_0003C9_000345,
  0x0003CE_000345_0003C9_000342_001FF6_000345_00039F_000300_00038C_0003A9_000300_00038F,
  0x0003A9_000345_0000B4_000020_000314_002002_002003_000020_000020_000020_000020_000020,
  0x000020_000020_000020_000020_002010_000020_000333_00002E_00002E_00002E_00002E_00002E,
  0x00002E_000020_002032_002032_002032_002032_002032_002035_002035_002035_002035_002035,
  0x000021_000021_000020_000305_00003F_00003F_00003F_000021_000021_00003F_002032_002032,
  0x002032_002032_000020_000030_000069_000034_000035_000036_000037_000038_000039_00002B,
  0x002212_00003D_000028_000029_00006E_000030_000031_000032_000033_000034_000035_000036,
  0x000037_000038_000039_00002B_002212_00003D_000028_000029_000061_000065_00006F_000078,
  0x000259_000068_00006B_00006C_00006D_00006E_000070_000073_000074_000052_000073_000061,
  0x00002F_000063_000061_00002F_000073_000043_0000B0_000043_000063_00002F_00006F_000063,
  0x00002F_000075_000190_0000B0_000046_000067_000048_000048_000048_000068_000127_000049,
  0x000049_00004C_00006C_00004E_00004E_00006F_000050_000051_000052_000052_000052_000053,
  0x00004D_000054_000045_00004C_000054_00004D_00005A_0003A9_00005A_00004B_0000C5_000042,
  0x000043_000065_000045_000046_00004D_00006F_0005D0_0005D1_0005D2_0005D3_000069_000046,
  0x000041_000058_0003C0_0003B3_000393_0003A0_002211_000044_000064_000065_000069_00006A,
  0x000031_002044_000037_000031_002044_000039_000031_002044_000031_000030_000031_002044,
  0x000033_000032_002044_000033_000031_002044_000035_000032_002044_000035_000033_002044,
  0x000035_000034_002044_000035_000031_002044_000036_000035_002044_000036_000031_002044,
  0x000038_000033_002044_000038_000035_002044_000038_000037_002044_000038_000031_002044,
  0x000049_000049_000049_000049_000049_000049_000049_000056_000056_000056_000049_000056,
  0x000049_000049_000056_000049_000049_000049_000049_000058_000058_000058_000049_000058,
  0x000049_000049_00004C_000043_000044_00004D_000069_000069_000069_000069_000069_000069,
  0x000069_000076_000076_000076_000069_000076_000069_000069_000076_000069_000069_000069,
  0x000069_000078_000078_000078_000069_000078_000069_000069_00006C_000063_000064_00006D,
  0x000030_002044_000033_002190_000338_002192_000338_002194_000338_0021D0_000338_0021D4,
  0x000338_0021D2_000338_002203_000338_002208_000338_00220B_000338_002223_000338_002225,
  0x000338_00222B_00222B_00222B_00222B_00222B_00222E_00222E_00222E_00222E_00222E_00223C,
  0x000338_002243_000338_002245_000338_002248_000338_00003D_000338_002261_000338_00224D,
  0x000338_00003C_000338_00003E_000338_002264_000338_002265_000338_002272_000338_002273,
  0x000338_002276_000338_002277_000338_00227A_000338_00227B_000338_002282_000338_002283,
  0x000338_002286_000338_002287_000338_0022A2_000338_0022A8_000338_0022A9_000338_0022AB,
  0x000338_00227C_000338_00227D_000338_002291_000338_002292_000338_0022B2_000338_0022B3,
  0x000338_0022B4_000338_0022B5_000338_003008_003009_000031_000032_000033_000034_000035,
  0x000036_000037_000038_000039_000031_000030_000031_000031_000031_000032_000031_000033,
  0x000031_000034_000031_000035_000031_000036_000031_000037_000031_000038_000031_000039,
  0x000032_000030_000028_000031_000029_000028_000032_000029_000028_000033_000029_000028,
  0x000034_000029_000028_000035_000029_000028_000036_000029_000028_000037_000029_000028,
  0x000038_000029_000028_000039_000029_000028_000031_000030_000029_000028_000031_000031,
  0x000029_000028_000031_000032_000029_000028_000031_000033_000029_000028_000031_000034,
  0x000029_000028_000031_000035_000029_000028_000031_000036_000029_000028_000031_000037,
  0x000029_000028_000031_000038_000029_000028_000031_000039_000029_000028_000032_000030,
  0x000029_000031_00002E_000032_00002E_000033_00002E_000034_00002E_000035_00002E_000036,
  0x00002E_000037_00002E_000038_00002E_000039_00002E_000031_000030_00002E_000031_000031,
  0x00002E_000031_000032_00002E_000031_000033_00002E_000031_000034_00002E_000031_000035,
  0x00002E_000031_000036_00002E_000031_000037_00002E_000031_000038_00002E_000031_000039,
  0x00002E_000032_000030_00002E_000028_000061_000029_000028_000062_000029_000028_000063,
  0x000029_000028_000064_000029_000028_000065_000029_000028_000066_000029_000028_000067,
  0x000029_000028_000068_000029_000028_000069_000029_000028_00006A_000029_000028_00006B,
  0x000029_000028_00006C_000029_000028_00006D_000029_000028_00006E_000029_000028_00006F,
  0x000029_000028_000070_000029_000028_000071_000029_000028_000072_000029_000028_000073,
  0x000029_000028_000074_000029_000028_000075_000029_000028_000076_000029_000028_000077,
  0x000029_000028_000078_000029_000028_000079_000029_000028_00007A_000029_000041_000042,
  0x000043_000044_000045_000046_000047_000048_000049_00004A_00004B_00004C_00004D_00004E,
  0x00004F_000050_000051_000052_000053_000054_000055_000056_000057_000058_000059_00005A,
  0x000061_000062_000063_000064_000065_000066_000067_000068_000069_00006A_00006B_00006C,
  0x00006D_00006E_00006F_000070_000071_000072_000073_000074_000075_000076_000077_000078,
  0x000079_00007A_000030_00222B_00222B_00222B_00222B_00003A_00003A_00003D_00003D_00003D,
  0x00003D_00003D_00003D_002ADD_000338_00006A_000056_002D61_006BCD_009F9F_004E00_004E28,
  0x004E36_004E3F_004E59_004E85_004E8C_004EA0_004EBA_00513F_005165_00516B_005182_005196,
  0x0051AB_0051E0_0051F5_005200_00529B_0052F9_005315_00531A_005338_005341_00535C_005369,
  0x005382_0053B6_0053C8_0053E3_0056D7_00571F_0058EB_005902_00590A_005915_005927_005973,
  0x005B50_005B80_005BF8_005C0F_005C22_005C38_005C6E_005C71_005DDB_005DE5_005DF1_005DFE,
  0x005E72_005E7A_005E7F_005EF4_005EFE_005F0B_005F13_005F50_005F61_005F73_005FC3_006208,
  0x006236_00624B_00652F_006534_006587_006597_0065A4_0065B9_0065E0_0065E5_0066F0_006708,
  0x006728_006B20_006B62_006B79_006BB3_006BCB_006BD4_006BDB_006C0F_006C14_006C34_00706B,
  0x00722A_007236_00723B_00723F_007247_007259_00725B_0072AC_007384_007389_0074DC_0074E6,
  0x007518_00751F_007528_007530_00758B_007592_007676_00767D_0076AE_0076BF_0076EE_0077DB,
  0x0077E2_0077F3_00793A_0079B8_0079BE_007A74_007ACB_007AF9_007C73_007CF8_007F36_007F51,
  0x007F8A_007FBD_008001_00800C_008012_008033_00807F_008089_0081E3_0081EA_0081F3_0081FC,
  0x00820C_00821B_00821F_00826E_008272_008278_00864D_00866B_008840_00884C_008863_00897E,
  0x00898B_0089D2_008A00_008C37_008C46_008C55_008C78_008C9D_008D64_008D70_008DB3_008EAB,
  0x008ECA_008F9B_008FB0_008FB5_009091_009149_0091C6_0091CC_0091D1_009577_009580_00961C,
  0x0096B6_0096B9_0096E8_009751_00975E_009762_009769_0097CB_0097ED_0097F3_009801_0098A8,
  0x0098DB_0098DF_009996_009999_0099AC_009AA8_009AD8_009ADF_009B25_009B2F_009B32_009B3C,
  0x009B5A_009CE5_009E75_009E7F_009EA5_009EBB_009EC3_009ECD_009ED1_009EF9_009EFD_009F0E,
  0x009F13_009F20_009F3B_009F4A_009F52_009F8D_009F9C_009FA0_000020_003012_005341_005344,
  0x005345_00304B_003099_00304D_003099_00304F_003099_003051_003099_003053_003099_003055,
  0x003099_003057_003099_003059_003099_00305B_003099_00305D_003099_00305F_003099_003061,
  0x003099_003064_003099_003066_003099_003068_003099_00306F_003099_00306F_00309A_003072,
  0x003099_003072_00309A_003075_003099_003075_00309A_003078_003099_003078_00309A_00307B,
  0x003099_00307B_00309A_003046_003099_000020_003099_000020_00309A_00309D_003099_003088,
  0x00308A_0030AB_003099_0030AD_003099_0030AF_003099_0030B1_003099_0030B3_003099_0030B5,
  0x003099_0030B7_003099_0030B9_003099_0030BB_003099_0030BD_003099_0030BF_003099_0030C1,
  0x003099_0030C4_003099_0030C6_003099_0030C8_003099_0030CF_003099_0030CF_00309A_0030D2,
  0x003099_0030D2_00309A_0030D5_003099_0030D5_00309A_0030D8_003099_0030D8_00309A_0030DB,
  0x003099_0030DB_00309A_0030A6_003099_0030EF_003099_0030F0_003099_0030F1_003099_0030F2,
  0x003099_0030FD_003099_0030B3_0030C8_001100_001101_0011AA_001102_0011AC_0011AD_001103,
  0x001104_001105_0011B0_0011B1_0011B2_0011B3_0011B4_0011B5_00111A_001106_001107_001108,
  0x001121_001109_00110A_00110B_00110C_00110D_00110E_00110F_001110_001111_001112_001161,
  0x001162_001163_001164_001165_001166_001167_001168_001169_00116A_00116B_00116C_00116D,
  0x00116E_00116F_001170_001171_001172_001173_001174_001175_001160_001114_001115_0011C7,
  0x0011C8_0011CC_0011CE_0011D3_0011D7_0011D9_00111C_0011DD_0011DF_00111D_00111E_001120,
  0x001122_001123_001127_001129_00112B_00112C_00112D_00112E_00112F_001132_001136_001140,
  0x001147_00114C_0011F1_0011F2_001157_001158_001159_001184_001185_001188_001191_001192,
  0x001194_00119E_0011A1_004E00_004E8C_004E09_0056DB_004E0A_004E2D_004E0B_007532_004E59,
  0x004E19_004E01_005929_005730_004EBA_000028_001100_000029_000028_001102_000029_000028,
  0x001103_000029_000028_001105_000029_000028_001106_000029_000028_001107_000029_000028,
  0x001109_000029_000028_00110B_000029_000028_00110C_000029_000028_00110E_000029_000028,
  0x00110F_000029_000028_001110_000029_000028_001111_000029_000028_001112_000029_000028,
  0x001100_001161_000029_000028_001102_001161_000029_000028_001103_001161_000029_000028,
  0x001105_001161_000029_000028_001106_001161_000029_000028_001107_001161_000029_000028,
  0x001109_001161_000029_000028_00110B_001161_000029_000028_00110C_001161_000029_000028,
  0x00110E_001161_000029_000028_00110F_001161_000029_000028_001110_001161_000029_000028,
  0x001111_001161_000029_000028_001112_001161_000029_000028_00110C_00116E_000029_000028,
  0x00110B_001169_00110C_001165_0011AB_000029_000028_00110B_001169_001112_00116E_000029,
  0x000028_004E00_000029_000028_004E8C_000029_000028_004E09_000029_000028_0056DB_000029,
  0x000028_004E94_000029_000028_00516D_000029_000028_004E03_000029_000028_00516B_000029,
  0x000028_004E5D_000029_000028_005341_000029_000028_006708_000029_000028_00706B_000029,
  0x000028_006C34_000029_000028_006728_000029_000028_0091D1_000029_000028_00571F_000029,
  0x000028_0065E5_000029_000028_00682A_000029_000028_006709_000029_000028_00793E_000029,
  0x000028_00540D_000029_000028_007279_000029_000028_008CA1_000029_000028_00795D_000029,
  0x000028_0052B4_000029_000028_004EE3_000029_000028_00547C_000029_000028_005B66_000029,
  0x000028_0076E3_000029_000028_004F01_000029_000028_008CC7_000029_000028_005354_000029,
  0x000028_00796D_000029_000028_004F11_000029_000028_0081EA_000029_000028_0081F3_000029,
  0x00554F_005E7C_006587_007B8F_000050_000054_000045_000032_000031_000032_000032_000032,
  0x000033_000032_000034_000032_000035_000032_000036_000032_000037_000032_000038_000032,
  0x000039_000033_000030_000033_000031_000033_000032_000033_000033_000033_000034_000033,
  0x000035_001100_001102_001103_001105_001106_001107_001109_00110B_00110C_00110E_00110F,
  0x001110_001111_001112_001100_001161_001102_001161_001103_001161_001105_001161_001106,
  0x001161_001107_001161_001109_001161_00110B_001161_00110C_001161_00110E_001161_00110F,
  0x001161_001110_001161_001111_001161_001112_001161_00110E_001161_0011B7_001100_001169,
  0x00110C_00116E_00110B_001174_00110B_00116E_004E00_004E8C_004E09_0056DB_004E94_00516D,
  0x004E03_00516B_004E5D_005341_006708_00706B_006C34_006728_0091D1_00571F_0065E5_00682A,
  0x006709_00793E_00540D_007279_008CA1_00795D_0052B4_0079D8_007537_005973_009069_00512A,
  0x005370_006CE8_009805_004F11_005199_006B63_004E0A_004E2D_004E0B_005DE6_0053F3_00533B,
  0x005B97_005B66_0076E3_004F01_008CC7_005354_00591C_000033_000036_000033_000037_000033,
  0x000038_000033_000039_000034_000030_000034_000031_000034_000032_000034_000033_000034,
  0x000034_000034_000035_000034_000036_000034_000037_000034_000038_000034_000039_000035,
  0x000030_000031_006708_000032_006708_000033_006708_000034_006708_000035_006708_000036,
  0x006708_000037_006708_000038_006708_000039_006708_000031_000030_006708_000031_000031,
  0x006708_000031_000032_006708_000048_000067_000065_000072_000067_000065_000056_00004C,
  0x000054_000044_0030A2_0030A4_0030A6_0030A8_0030AA_0030AB_0030AD_0030AF_0030B1_0030B3,
  0x0030B5_0030B7_0030B9_0030BB_0030BD_0030BF_0030C1_0030C4_0030C6_0030C8_0030CA_0030CB,
  0x0030CC_0030CD_0030CE_0030CF_0030D2_0030D5_0030D8_0030DB_0030DE_0030DF_0030E0_0030E1,
  0x0030E2_0030E4_0030E6_0030E8_0030E9_0030EA_0030EB_0030EC_0030ED_0030EF_0030F0_0030F1,
  0x0030F2_004EE4_00548C_0030A2_0030D1_0030FC_0030C8_0030A2_0030EB_0030D5_0030A1_0030A2,
  0x0030F3_0030DA_0030A2_0030A2_0030FC_0030EB_0030A4_0030CB_0030F3_0030B0_0030A4_0030F3,
  0x0030C1_0030A6_0030A9_0030F3_0030A8_0030B9_0030AF_0030FC_0030C9_0030A8_0030FC_0030AB,
  0x0030FC_0030AA_0030F3_0030B9_0030AA_0030FC_0030E0_0030AB_0030A4_0030EA_0030AB_0030E9,
  0x0030C3_0030C8_0030AB_0030ED_0030EA_0030FC_0030AC_0030ED_0030F3_0030AC_0030F3_0030DE,
  0x0030AE_0030AC_0030AE_0030CB_0030FC_0030AD_0030E5_0030EA_0030FC_0030AE_0030EB_0030C0,
  0x0030FC_0030AD_0030ED_0030AD_0030ED_0030B0_0030E9_0030E0_0030AD_0030ED_0030E1_0030FC,
  0x0030C8_0030EB_0030AD_0030ED_0030EF_0030C3_0030C8_0030B0_0030E9_0030E0_0030B0_0030E9,
  0x0030E0_0030C8_0030F3_0030AF_0030EB_0030BC_0030A4_0030ED_0030AF_0030ED_0030FC_0030CD,
  0x0030B1_0030FC_0030B9_0030B3_0030EB_0030CA_0030B3_0030FC_0030DD_0030B5_0030A4_0030AF,
  0x0030EB_0030B5_0030F3_0030C1_0030FC_0030E0_0030B7_0030EA_0030F3_0030B0_0030BB_0030F3,
  0x0030C1_0030BB_0030F3_0030C8_0030C0_0030FC_0030B9_0030C7_0030B7_0030C9_0030EB_0030C8,
  0x0030F3_0030CA_0030CE_0030CE_0030C3_0030C8_0030CF_0030A4_0030C4_0030D1_0030FC_0030BB,
  0x0030F3_0030C8_0030D1_0030FC_0030C4_0030D0_0030FC_0030EC_0030EB_0030D4_0030A2_0030B9,
  0x0030C8_0030EB_0030D4_0030AF_0030EB_0030D4_0030B3_0030D3_0030EB_0030D5_0030A1_0030E9,
  0x0030C3_0030C9_0030D5_0030A3_0030FC_0030C8_0030D6_0030C3_0030B7_0030A7_0030EB_0030D5,
  0x0030E9_0030F3_0030D8_0030AF_0030BF_0030FC_0030EB_0030DA_0030BD_0030DA_0030CB_0030D2,
  0x0030D8_0030EB_0030C4_0030DA_0030F3_0030B9_0030DA_0030FC_0030B8_0030D9_0030FC_0030BF,
  0x0030DD_0030A4_0030F3_0030C8_0030DC_0030EB_0030C8_0030DB_0030F3_0030DD_0030F3_0030C9,
  0x0030DB_0030FC_0030EB_0030DB_0030FC_0030F3_0030DE_0030A4_0030AF_0030ED_0030DE_0030A4,
  0x0030EB_0030DE_0030C3_0030CF_0030DE_0030EB_0030AF_0030DE_0030F3_0030B7_0030E7_0030F3,
  0x0030DF_0030AF_0030ED_0030F3_0030DF_0030EA_0030DF_0030EA_0030D0_0030FC_0030EB_0030E1,
  0x0030AC_0030E1_0030AC_0030C8_0030F3_0030E1_0030FC_0030C8_0030EB_0030E4_0030FC_0030C9,
  0x0030E4_0030FC_0030EB_0030E6_0030A2_0030F3_0030EA_0030C3_0030C8_0030EB_0030EA_0030E9,
  0x0030EB_0030D4_0030FC_0030EB_0030FC_0030D6_0030EB_0030EC_0030E0_0030EC_0030F3_0030C8,
  0x0030B2_0030F3_0030EF_0030C3_0030C8_000030_0070B9_000031_0070B9_000032_0070B9_000033,
  0x0070B9_000034_0070B9_000035_0070B9_000036_0070B9_000037_0070B9_000038_0070B9_000039,
  0x0070B9_000031_000030_0070B9_000031_000031_0070B9_000031_000032_0070B9_000031_000033,
  0x0070B9_000031_000034_0070B9_000031_000035_0070B9_000031_000036_0070B9_000031_000037,
  0x0070B9_000031_000038_0070B9_000031_000039_0070B9_000032_000030_0070B9_000032_000031,
  0x0070B9_000032_000032_0070B9_000032_000033_0070B9_000032_000034_0070B9_000068_000050,
  0x000061_000064_000061_000041_000055_000062_000061_000072_00006F_000056_000070_000063,
  0x000064_00006D_000064_00006D_0000B2_000064_00006D_0000B3_000049_000055_005E73_006210,
  0x00662D_00548C_005927_006B63_00660E_006CBB_00682A_005F0F_004F1A_00793E_000070_000041,
  0x00006E_000041_0003BC_000041_00006D_000041_00006B_000041_00004B_000042_00004D_000042,
  0x000047_000042_000063_000061_00006C_00006B_000063_000061_00006C_000070_000046_00006E,
  0x000046_0003BC_000046_0003BC_000067_00006D_000067_00006B_000067_000048_00007A_00006B,
  0x000048_00007A_00004D_000048_00007A_000047_000048_00007A_000054_000048_00007A_0003BC,
  0x002113_00006D_002113_000064_002113_00006B_002113_000066_00006D_00006E_00006D_0003BC,
  0x00006D_00006D_00006D_000063_00006D_00006B_00006D_00006D_00006D_0000B2_000063_00006D,
  0x0000B2_00006D_0000B2_00006B_00006D_0000B2_00006D_00006D_0000B3_000063_00006D_0000B3,
  0x00006D_0000B3_00006B_00006D_0000B3_00006D_002215_000073_00006D_002215_000073_0000B2,
  0x000050_000061_00006B_000050_000061_00004D_000050_000061_000047_000050_000061_000072,
  0x000061_000064_000072_000061_000064_002215_000073_000072_000061_000064_002215_000073,
  0x0000B2_000070_000073_00006E_000073_0003BC_000073_00006D_000073_000070_000056_00006E,
  0x000056_0003BC_000056_00006D_000056_00006B_000056_00004D_000056_000070_000057_00006E,
  0x000057_0003BC_000057_00006D_000057_00006B_000057_00004D_000057_00006B_0003A9_00004D,
  0x0003A9_000061_00002E_00006D_00002E_000042_000071_000063_000063_000063_000064_000043,
  0x002215_00006B_000067_000043_00006F_00002E_000064_000042_000047_000079_000068_000061,
  0x000048_000050_000069_00006E_00004B_00004B_00004B_00004D_00006B_000074_00006C_00006D,
  0x00006C_00006E_00006C_00006F_000067_00006C_000078_00006D_000062_00006D_000069_00006C,
  0x00006D_00006F_00006C_000050_000048_000070_00002E_00006D_00002E_000050_000050_00004D,
  0x000050_000052_000073_000072_000053_000076_000057_000062_000056_002215_00006D_000041,
  0x002215_00006D_000031_0065E5_000032_0065E5_000033_0065E5_000034_0065E5_000035_0065E5,
  0x000036_0065E5_000037_0065E5_000038_0065E5_000039_0065E5_000031_000030_0065E5_000031,
  0x000031_0065E5_000031_000032_0065E5_000031_000033_0065E5_000031_000034_0065E5_000031,
  0x000035_0065E5_000031_000036_0065E5_000031_000037_0065E5_000031_000038_0065E5_000031,
  0x000039_0065E5_000032_000030_0065E5_000032_000031_0065E5_000032_000032_0065E5_000032,
  0x000033_0065E5_000032_000034_0065E5_000032_000035_0065E5_000032_000036_0065E5_000032,
  0x000037_0065E5_000032_000038_0065E5_000032_000039_0065E5_000033_000030_0065E5_000033,
  0x000031_0065E5_000067_000061_00006C_00044A_00044C_00A76F_000043_000046_000051_000126,
  0x000153_00A727_00AB37_00026B_00AB52_00028D_008C48_0066F4_008ECA_008CC8_006ED1_004E32,
  0x0053E5_009F9C_009F9C_005951_0091D1_005587_005948_0061F6_007669_007F85_00863F_0087BA,
  0x0088F8_00908F_006A02_006D1B_0070D9_0073DE_00843D_00916A_0099F1_004E82_005375_006B04,
  0x00721B_00862D_009E1E_005D50_006FEB_0085CD_008964_0062C9_0081D8_00881F_005ECA_006717,
  0x006D6A_0072FC_0090CE_004F86_0051B7_0052DE_0064C4_006AD3_007210_0076E7_008001_008606,
  0x00865C_008DEF_009732_009B6F_009DFA_00788C_00797F_007DA0_0083C9_009304_009E7F_008AD6,
  0x0058DF_005F04_007C60_00807E_007262_0078CA_008CC2_0096F7_0058D8_005C62_006A13_006DDA,
  0x006F0F_007D2F_007E37_00964B_0052D2_00808B_0051DC_0051CC_007A1C_007DBE_0083F1_009675,
  0x008B80_0062CF_006A02_008AFE_004E39_005BE7_006012_007387_007570_005317_0078FB_004FBF,
  0x005FA9_004E0D_006CCC_006578_007D22_0053C3_00585E_007701_008449_008AAA_006BBA_008FB0,
  0x006C88_0062FE_0082E5_0063A0_007565_004EAE_005169_0051C9_006881_007CE7_00826F_008AD2,
  0x0091CF_0052F5_005442_005973_005EEC_0065C5_006FFE_00792A_0095AD_009A6A_009E97_009ECE,
  0x00529B_0066C6_006B77_008F62_005E74_006190_006200_00649A_006F23_007149_007489_0079CA,
  0x007DF4_00806F_008F26_0084EE_009023_00934A_005217_0052A3_0054BD_0070C8_0088C2_008AAA,
  0x005EC9_005FF5_00637B_006BAE_007C3E_007375_004EE4_0056F9_005BE7_005DBA_00601C_0073B2,
  0x007469_007F9A_008046_009234_0096F6_009748_009818_004F8B_0079AE_0091B4_0096B8_0060E1,
  0x004E86_0050DA_005BEE_005C3F_006599_006A02_0071CE_007642_0084FC_00907C_009F8D_006688,
  0x00962E_005289_00677B_0067F3_006D41_006E9C_007409_007559_00786B_007D10_00985E_00516D,
  0x00622E_009678_00502B_005D19_006DEA_008F2A_005F8B_006144_006817_007387_009686_005229,
  0x00540F_005C65_006613_00674E_0068A8_006CE5_007406_0075E2_007F79_0088CF_0088E1_0091CC,
  0x0096E2_00533F_006EBA_00541D_0071D0_007498_0085FA_0096A3_009C57_009E9F_006797_006DCB,
  0x0081E8_007ACB_007B20_007C92_0072C0_007099_008B58_004EC0_008336_00523A_005207_005EA6,
  0x0062D3_007CD6_005B85_006D1E_0066B4_008F3B_00884C_00964D_00898B_005ED3_005140_0055C0,
  0x00585A_006674_0051DE_00732A_0076CA_00793C_00795E_007965_00798F_009756_007CBE_007FBD,
  0x008612_008AF8_009038_0090FD_0098EF_0098FC_009928_009DB4_0090DE_0096B7_004FAE_0050E7,
  0x00514D_0052C9_0052E4_005351_00559D_005606_005668_005840_0058A8_005C64_005C6E_006094,
  0x006168_00618E_0061F2_00654F_0065E2_006691_006885_006D77_006E1A_006F22_00716E_00722B,
  0x007422_007891_00793E_007949_007948_007950_007956_00795D_00798D_00798E_007A40_007A81,
  0x007BC0_007DF4_007E09_007E41_007F72_008005_0081ED_008279_008279_008457_008910_008996,
  0x008B01_008B39_008CD3_008D08_008FB6_009038_0096E3_0097FF_00983B_006075_0242EE_008218,
  0x004E26_0051B5_005168_004F80_005145_005180_0052C7_0052FA_00559D_005555_005599_0055E2,
  0x00585A_0058B3_005944_005954_005A62_005B28_005ED2_005ED9_005F69_005FAD_0060D8_00614E,
  0x006108_00618E_006160_0061F2_006234_0063C4_00641C_006452_006556_006674_006717_00671B,
  0x006756_006B79_006BBA_006D41_006EDB_006ECB_006F22_00701E_00716E_0077A7_007235_0072AF,
  0x00732A_007471_007506_00753B_00761D_00761F_0076CA_0076DB_0076F4_00774A_007740_0078CC,
  0x007AB1_007BC0_007C7B_007D5B_007DF4_007F3E_008005_008352_0083EF_008779_008941_008986,
  0x008996_008ABF_008AF8_008ACB_008B01_008AFE_008AED_008B39_008B8A_008D08_008F38_009072,
  0x009199_009276_00967C_0096E3_009756_0097DB_0097FF_00980B_00983B_009B12_009F9C_02284A,
  0x022844_0233D5_003B9D_004018_004039_025249_025CD0_027ED3_009F43_009F8E_000066_000066,
  0x000066_000069_000066_00006C_000066_000066_000069_000066_000066_00006C_00017F_000074,
  0x000073_000074_000574_000576_000574_000565_000574_00056B_00057E_000576_000574_00056D,
  0x0005D9_0005B4_0005F2_0005B7_0005E2_0005D0_0005D3_0005D4_0005DB_0005DC_0005DD_0005E8,
  0x0005EA_00002B_0005E9_0005C1_0005E9_0005C2_00FB49_0005C1_00FB49_0005C2_0005D0_0005B7,
  0x0005D0_0005B8_0005D0_0005BC_0005D1_0005BC_0005D2_0005BC_0005D3_0005BC_0005D4_0005BC,
  0x0005D5_0005BC_0005D6_0005BC_0005D8_0005BC_0005D9_0005BC_0005DA_0005BC_0005DB_0005BC,
  0x0005DC_0005BC_0005DE_0005BC_0005E0_0005BC_0005E1_0005BC_0005E3_0005BC_0005E4_0005BC,
  0x0005E6_0005BC_0005E7_0005BC_0005E8_0005BC_0005E9_0005BC_0005EA_0005BC_0005D5_0005B9,
  0x0005D1_0005BF_0005DB_0005BF_0005E4_0005BF_0005D0_0005DC_000671_000671_00067B_00067B,
  0x00067B_00067B_00067E_00067E_00067E_00067E_000680_000680_000680_000680_00067A_00067A,
  0x00067A_00067A_00067F_00067F_00067F_00067F_000679_000679_000679_000679_0006A4_0006A4,
  0x0006A4_0006A4_0006A6_0006A6_0006A6_0006A6_000684_000684_000684_000684_000683_000683,
  0x000683_000683_000686_000686_000686_000686_000687_000687_000687_000687_00068D_00068D,
  0x00068C_00068C_00068E_00068E_000688_000688_000698_000698_000691_000691_0006A9_0006A9,
  0x0006A9_0006A9_0006AF_0006AF_0006AF_0006AF_0006B3_0006B3_0006B3_0006B3_0006B1_0006B1,
  0x0006B1_0006B1_0006BA_0006BA_0006BB_0006BB_0006BB_0006BB_0006C0_0006C0_0006C1_0006C1,
  0x0006C1_0006C1_0006BE_0006BE_0006BE_0006BE_0006D2_0006D2_0006D3_0006D3_0006AD_0006AD,
  0x0006AD_0006AD_0006C7_0006C7_0006C6_0006C6_0006C8_0006C8_000677_0006CB_0006CB_0006C5,
  0x0006C5_0006C9_0006C9_0006D0_0006D0_0006D0_0006D0_000649_000649_000626_000627_000626,
  0x000627_000626_0006D5_000626_0006D5_000626_000648_000626_000648_000626_0006C7_000626,
  0x0006C7_000626_0006C6_000626_0006C6_000626_0006C8_000626_0006C8_000626_0006D0_000626,
  0x0006D0_000626_0006D0_000626_000649_000626_000649_000626_000649_0006CC_0006CC_0006CC,
  0x0006CC_000626_00062C_000626_00062D_000626_000645_000626_000649_000626_00064A_000628,
  0x00062C_000628_00062D_000628_00062E_000628_000645_000628_000649_000628_00064A_00062A,
  0x00062C_00062A_00062D_00062A_00062E_00062A_000645_00062A_000649_00062A_00064A_00062B,
  0x00062C_00062B_000645_00062B_000649_00062B_00064A_00062C_00062D_00062C_000645_00062D,
  0x00062C_00062D_000645_00062E_00062C_00062E_00062D_00062E_000645_000633_00062C_000633,
  0x00062D_000633_00062E_000633_000645_000635_00062D_000635_000645_000636_00062C_000636,
  0x00062D_000636_00062E_000636_000645_000637_00062D_000637_000645_000638_000645_000639,
  0x00062C_000639_000645_00063A_00062C_00063A_000645_000641_00062C_000641_00062D_000641,
  0x00062E_000641_000645_000641_000649_000641_00064A_000642_00062D_000642_000645_000642,
  0x000649_000642_00064A_000643_000627_000643_00062C_000643_00062D_000643_00062E_000643,
  0x000644_000643_000645_000643_000649_000643_00064A_000644_00062C_000644_00062D_000644,
  0x00062E_000644_000645_000644_000649_000644_00064A_000645_00062C_000645_00062D_000645,
  0x00062E_000645_000645_000645_000649_000645_00064A_000646_00062C_000646_00062D_000646,
  0x00062E_000646_000645_000646_000649_000646_00064A_000647_00062C_000647_000645_000647,
  0x000649_000647_00064A_00064A_00062C_00064A_00062D_00064A_00062E_00064A_000645_00064A,
  0x000649_00064A_00064A_000630_000670_000631_000670_000649_000670_000020_00064C_000651,
  0x000020_00064D_000651_000020_00064E_000651_000020_00064F_000651_000020_000650_000651,
  0x000020_000651_000670_000626_000631_000626_000632_000626_000645_000626_000646_000626,
  0x000649_000626_00064A_000628_000631_000628_000632_000628_000645_000628_000646_000628,
  0x000649_000628_00064A_00062A_000631_00062A_000632_00062A_000645_00062A_000646_00062A,
  0x000649_00062A_00064A_00062B_000631_00062B_000632_00062B_000645_00062B_000646_00062B,
  0x000649_00062B_00064A_000641_000649_000641_00064A_000642_000649_000642_00064A_000643,
  0x000627_000643_000644_000643_000645_000643_000649_000643_00064A_000644_000645_000644,
  0x000649_000644_00064A_000645_000627_000645_000645_000646_000631_000646_000632_000646,
  0x000645_000646_000646_000646_000649_000646_00064A_000649_000670_00064A_000631_00064A,
  0x000632_00064A_000645_00064A_000646_00064A_000649_00064A_00064A_000626_00062C_000626,
  0x00062D_000626_00062E_000626_000645_000626_000647_000628_00062C_000628_00062D_000628,
  0x00062E_000628_000645_000628_000647_00062A_00062C_00062A_00062D_00062A_00062E_00062A,
  0x000645_00062A_000647_00062B_000645_00062C_00062D_00062C_000645_00062D_00062C_00062D,
  0x000645_00062E_00062C_00062E_000645_000633_00062C_000633_00062D_000633_00062E_000633,
  0x000645_000635_00062D_000635_00062E_000635_000645_000636_00062C_000636_00062D_000636,
  0x00062E_000636_000645_000637_00062D_000638_000645_000639_00062C_000639_000645_00063A,
  0x00062C_00063A_000645_000641_00062C_000641_00062D_000641_00062E_000641_000645_000642,
  0x00062D_000642_000645_000643_00062C_000643_00062D_000643_00062E_000643_000644_000643,
  0x000645_000644_00062C_000644_00062D_000644_00062E_000644_000645_000644_000647_000645,
  0x00062C_000645_00062D_000645_00062E_000645_000645_000646_00062C_000646_00062D_000646,
  0x00062E_000646_000645_000646_000647_000647_00062C_000647_000645_000647_000670_00064A,
  0x00062C_00064A_00062D_00064A_00062E_00064A_000645_00064A_000647_000626_000645_000626,
  0x000647_000628_000645_000628_000647_00062A_000645_00062A_000647_00062B_000645_00062B,
  0x000647_000633_000645_000633_000647_000634_000645_000634_000647_000643_000644_000643,
  0x000645_000644_000645_000646_000645_000646_000647_00064A_000645_00064A_000647_000640,
  0x00064E_000651_000640_00064F_000651_000640_000650_000651_000637_000649_000637_00064A,
  0x000639_000649_000639_00064A_00063A_000649_00063A_00064A_000633_000649_000633_00064A,
  0x000634_000649_000634_00064A_00062D_000649_00062D_00064A_00062C_000649_00062C_00064A,
  0x00062E_000649_00062E_00064A_000635_000649_000635_00064A_000636_000649_000636_00064A,
  0x000634_00062C_000634_00062D_000634_00062E_000634_000645_000634_000631_000633_000631,
  0x000635_000631_000636_000631_000637_000649_000637_00064A_000639_000649_000639_00064A,
  0x00063A_000649_00063A_00064A_000633_000649_000633_00064A_000634_000649_000634_00064A,
  0x00062D_000649_00062D_00064A_00062C_000649_00062C_00064A_00062E_000649_00062E_00064A,
  0x000635_000649_000635_00064A_000636_000649_000636_00064A_000634_00062C_000634_00062D,
  0x000634_00062E_000634_000645_000634_000631_000633_000631_000635_000631_000636_000631,
  0x000634_00062C_000634_00062D_000634_00062E_000634_000645_000633_000647_000634_000647,
  0x000637_000645_000633_00062C_000633_00062D_000633_00062E_000634_00062C_000634_00062D,
  0x000634_00062E_000637_000645_000638_000645_000627_00064B_000627_00064B_00062A_00062C,
  0x000645_00062A_00062D_00062C_00062A_00062D_00062C_00062A_00062D_000645_00062A_00062E,
  0x000645_00062A_000645_00062C_00062A_000645_00062D_00062A_000645_00062E_00062C_000645,
  0x00062D_00062C_000645_00062D_00062D_000645_00064A_00062D_000645_000649_000633_00062D,
  0x00062C_000633_00062C_00062D_000633_00062C_000649_000633_000645_00062D_000633_000645,
  0x00062D_000633_000645_00062C_000633_000645_000645_000633_000645_000645_000635_00062D,
  0x00062D_000635_00062D_00062D_000635_000645_000645_000634_00062D_000645_000634_00062D,
  0x000645_000634_00062C_00064A_000634_000645_00062E_000634_000645_00062E_000634_000645,
  0x000645_000634_000645_000645_000636_00062D_000649_000636_00062E_000645_000636_00062E,
  0x000645_000637_000645_00062D_000637_000645_00062D_000637_000645_000645_000637_000645,
  0x00064A_000639_00062C_000645_000639_000645_000645_000639_000645_000645_000639_000645,
  0x000649_00063A_000645_000645_00063A_000645_00064A_00063A_000645_000649_000641_00062E,
  0x000645_000641_00062E_000645_000642_000645_00062D_000642_000645_000645_000644_00062D,
  0x000645_000644_00062D_00064A_000644_00062D_000649_000644_00062C_00062C_000644_00062C,
  0x00062C_000644_00062E_000645_000644_00062E_000645_000644_000645_00062D_000644_000645,
  0x00062D_000645_00062D_00062C_000645_00062D_000645_000645_00062D_00064A_000645_00062C,
  0x00062D_000645_00062C_000645_000645_00062E_00062C_000645_00062E_000645_000645_00062C,
  0x00062E_000647_000645_00062C_000647_000645_000645_000646_00062D_000645_000646_00062D,
  0x000649_000646_00062C_000645_000646_00062C_000645_000646_00062C_000649_000646_000645,
  0x00064A_000646_000645_000649_00064A_000645_000645_00064A_000645_000645_000628_00062E,
  0x00064A_00062A_00062C_00064A_00062A_00062C_000649_00062A_00062E_00064A_00062A_00062E,
  0x000649_00062A_000645_00064A_00062A_000645_000649_00062C_000645_00064A_00062C_00062D,
  0x000649_00062C_000645_000649_000633_00062E_000649_000635_00062D_00064A_000634_00062D,
  0x00064A_000636_00062D_00064A_000644_00062C_00064A_000644_000645_00064A_00064A_00062D,
  0x00064A_00064A_00062C_00064A_00064A_000645_00064A_000645_000645_00064A_000642_000645,
  0x00064A_000646_00062D_00064A_000642_000645_00062D_000644_00062D_000645_000639_000645,
  0x00064A_000643_000645_00064A_000646_00062C_00062D_000645_00062E_00064A_000644_00062C,
  0x000645_000643_000645_000645_000644_00062C_000645_000646_00062C_00062D_00062C_00062D,
  0x00064A_00062D_00062C_00064A_000645_00062C_00064A_000641_000645_00064A_000628_00062D,
  0x00064A_000643_000645_000645_000639_00062C_000645_000635_000645_000645_000633_00062E,
  0x00064A_000646_00062C_00064A_000635_000644_0006D2_000642_000644_0006D2_000627_000644,
  0x000644_000647_000627_000643_000628_000631_000645_00062D_000645_00062F_000635_000644,
  0x000639_000645_000631_000633_000648_000644_000639_000644_00064A_000647_000648_000633,
  0x000644_000645_000635_000644_000649_000635_000644_000649_000020_000627_000644_000644,
  0x000647_000020_000639_000644_00064A_000647_000020_000648_000633_000644_000645_00062C,
  0x000644_000020_00062C_000644_000627_000644_000647_000631_0006CC_000627_000644_00002C,
  0x003001_003002_00003A_00003B_000021_00003F_003016_003017_002026_002025_002014_002013,
  0x00005F_00005F_000028_000029_00007B_00007D_003014_003015_003010_003011_00300A_00300B,
  0x003008_003009_00300C_00300D_00300E_00300F_00005B_00005D_00203E_00203E_00203E_00203E,
  0x00005F_00005F_00005F_00002C_003001_00002E_00003B_00003A_00003F_000021_002014_000028,
  0x000029_00007B_00007D_003014_003015_000023_000026_00002A_00002B_00002D_00003C_00003E,
  0x00003D_00005C_000024_000025_000040_000020_00064B_000640_00064B_000020_00064C_000020,
  0x00064D_000020_00064E_000640_00064E_000020_00064F_000640_00064F_000020_000650_000640,
  0x000650_000020_000651_000640_000651_000020_000652_000640_000652_000621_000622_000622,
  0x000623_000623_000624_000624_000625_000625_000626_000626_000626_000626_000627_000627,
  0x000628_000628_000628_000628_000629_000629_00062A_00062A_00062A_00062A_00062B_00062B,
  0x00062B_00062B_00062C_00062C_00062C_00062C_00062D_00062D_00062D_00062D_00062E_00062E,
  0x00062E_00062E_00062F_00062F_000630_000630_000631_000631_000632_000632_000633_000633,
  0x000633_000633_000634_000634_000634_000634_000635_000635_000635_000635_000636_000636,
  0x000636_000636_000637_000637_000637_000637_000638_000638_000638_000638_000639_000639,
  0x000639_000639_00063A_00063A_00063A_00063A_000641_000641_000641_000641_000642_000642,
  0x000642_000642_000643_000643_000643_000643_000644_000644_000644_000644_000645_000645,
  0x000645_000645_000646_000646_000646_000646_000647_000647_000647_000647_000648_000648,
  0x000649_000649_00064A_00064A_00064A_00064A_000644_000622_000644_000622_000644_000623,
  0x000644_000623_000644_000625_000644_000625_000644_000627_000644_000627_000021_000022,
  0x000023_000024_000025_000026_000027_000028_000029_00002A_00002B_00002C_00002D_00002E,
  0x00002F_000030_000031_000032_000033_000034_000035_000036_000037_000038_000039_00003A,
  0x00003B_00003C_00003D_00003E_00003F_000040_000041_000042_000043_000044_000045_000046,
  0x000047_000048_000049_00004A_00004B_00004C_00004D_00004E_00004F_000050_000051_000052,
  0x000053_000054_000055_000056_000057_000058_000059_00005A_00005B_00005C_00005D_00005E,
  0x00005F_000060_000061_000062_000063_000064_000065_000066_000067_000068_000069_00006A,
  0x00006B_00006C_00006D_00006E_00006F_000070_000071_000072_000073_000074_000075_000076,
  0x000077_000078_000079_00007A_00007B_00007C_00007D_00007E_002985_002986_003002_00300C,
  0x00300D_003001_0030FB_0030F2_0030A1_0030A3_0030A5_0030A7_0030A9_0030E3_0030E5_0030E7,
  0x0030C3_0030FC_0030A2_0030A4_0030A6_0030A8_0030AA_0030AB_0030AD_0030AF_0030B1_0030B3,
  0x0030B5_0030B7_0030B9_0030BB_0030BD_0030BF_0030C1_0030C4_0030C6_0030C8_0030CA_0030CB,
  0x0030CC_0030CD_0030CE_0030CF_0030D2_0030D5_0030D8_0030DB_0030DE_0030DF_0030E0_0030E1,
  0x0030E2_0030E4_0030E6_0030E8_0030E9_0030EA_0030EB_0030EC_0030ED_0030EF_0030F3_003099,
  0x00309A_003164_003131_003132_003133_003134_003135_003136_003137_003138_003139_00313A,
  0x00313B_00313C_00313D_00313E_00313F_003140_003141_003142_003143_003144_003145_003146,
  0x003147_003148_003149_00314A_00314B_00314C_00314D_00314E_00314F_003150_003151_003152,
  0x003153_003154_003155_003156_003157_003158_003159_00315A_00315B_00315C_00315D_00315E,
  0x00315F_003160_003161_003162_003163_0000A2_0000A3_0000AC_0000AF_0000A6_0000A5_0020A9,
  0x002502_002190_002191_002192_002193_0025A0_0025CB_0002D0_0002D1_0000E6_000299_000253,
  0x0002A3_00AB66_0002A5_0002A4_000256_000257_001D91_000258_00025E_0002A9_000264_000262,
  0x000260_00029B_000127_00029C_000267_000284_0002AA_0002AB_00026C_01DF04_00A78E_00026E,
  0x01DF05_00028E_01DF06_0000F8_000276_000277_000071_00027A_01DF08_00027D_00027E_000280,
  0x0002A8_0002A6_00AB67_0002A7_000288_002C71_00028F_0002A1_0002A2_000298_0001C0_0001C1,
  0x0001C2_01DF0A_01DF1E_011099_0110BA_01109B_0110BA_0110A5_0110BA_011131_011127_011132,
  0x011127_011347_01133E_011347_011357_0114B9_0114BA_0114B9_0114B0_0114B9_0114BD_0115B8,
  0x0115AF_0115B9_0115AF_011935_011930_01D157_01D165_01D158_01D165_01D15F_01D16E_01D15F,
  0x01D16F_01D15F_01D170_01D15F_01D171_01D15F_01D172_01D1B9_01D165_01D1BA_01D165_01D1BB,
  0x01D16E_01D1BC_01D16E_01D1BB_01D16F_01D1BC_01D16F_000041_000042_000043_000044_000045,
  0x000046_000047_000048_000049_00004A_00004B_00004C_00004D_00004E_00004F_000050_000051,
  0x000052_000053_000054_000055_000056_000057_000058_000059_00005A_000061_000062_000063,
  0x000064_000065_000066_000067_000068_000069_00006A_00006B_00006C_00006D_00006E_00006F,
  0x000070_000071_000072_000073_000074_000075_000076_000077_000078_000079_00007A_000041,
  0x000042_000043_000044_000045_000046_000047_000048_000049_00004A_00004B_00004C_00004D,
  0x00004E_00004F_000050_000051_000052_000053_000054_000055_000056_000057_000058_000059,
  0x00005A_000061_000062_000063_000064_000065_000066_000067_000069_00006A_00006B_00006C,
  0x00006D_00006E_00006F_000070_000071_000072_000073_000074_000075_000076_000077_000078,
  0x000079_00007A_000041_000042_000043_000044_000045_000046_000047_000048_000049_00004A,
  0x00004B_00004C_00004D_00004E_00004F_000050_000051_000052_000053_000054_000055_000056,
  0x000057_000058_000059_00005A_000061_000062_000063_000064_000065_000066_000067_000068,
  0x000069_00006A_00006B_00006C_00006D_00006E_00006F_000070_000071_000072_000073_000074,
  0x000075_000076_000077_000078_000079_00007A_000041_000043_000044_000047_00004A_00004B,
  0x00004E_00004F_000050_000051_000053_000054_000055_000056_000057_000058_000059_00005A,
  0x000061_000062_000063_000064_000066_000068_000069_00006A_00006B_00006C_00006D_00006E,
  0x000070_000071_000072_000073_000074_000075_000076_000077_000078_000079_00007A_000041,
  0x000042_000043_000044_000045_000046_000047_000048_000049_00004A_00004B_00004C_00004D,
  0x00004E_00004F_000050_000051_000052_000053_000054_000055_000056_000057_000058_000059,
  0x00005A_000061_000062_000063_000064_000065_000066_000067_000068_000069_00006A_00006B,
  0x00006C_00006D_00006E_00006F_000070_000071_000072_000073_000074_000075_000076_000077,
  0x000078_000079_00007A_000041_000042_000044_000045_000046_000047_00004A_00004B_00004C,
  0x00004D_00004E_00004F_000050_000051_000053_000054_000055_000056_000057_000058_000059,
  0x000061_000062_000063_000064_000065_000066_000067_000068_000069_00006A_00006B_00006C,
  0x00006D_00006E_00006F_000070_000071_000072_000073_000074_000075_000076_000077_000078,
  0x000079_00007A_000041_000042_000044_000045_000046_000047_000049_00004A_00004B_00004C,
  0x00004D_00004F_000053_000054_000055_000056_000057_000058_000059_000061_000062_000063,
  0x000064_000065_000066_000067_000068_000069_00006A_00006B_00006C_00006D_00006E_00006F,
  0x000070_000071_000072_000073_000074_000075_000076_000077_000078_000079_00007A_000041,
  0x000042_000043_000044_000045_000046_000047_000048_000049_00004A_00004B_00004C_00004D,
  0x00004E_00004F_000050_000051_000052_000053_000054_000055_000056_000057_000058_000059,
  0x00005A_000061_000062_000063_000064_000065_000066_000067_000068_000069_00006A_00006B,
  0x00006C_00006D_00006E_00006F_000070_000071_000072_000073_000074_000075_000076_000077,
  0x000078_000079_00007A_000041_000042_000043_000044_000045_000046_000047_000048_000049,
  0x00004A_00004B_00004C_00004D_00004E_00004F_000050_000051_000052_000053_000054_000055,
  0x000056_000057_000058_000059_00005A_000061_000062_000063_000064_000065_000066_000067,
  0x000068_000069_00006A_00006B_00006C_00006D_00006E_00006F_000070_000071_000072_000073,
  0x000074_000075_000076_000077_000078_000079_00007A_000041_000042_000043_000044_000045,
  0x000046_000047_000048_000049_00004A_00004B_00004C_00004D_00004E_00004F_000050_000051,
  0x000052_000053_000054_000055_000056_000057_000058_000059_00005A_000061_000062_000063,
  0x000064_000065_000066_000067_000068_000069_00006A_00006B_00006C_00006D_00006E_00006F,
  0x000070_000071_000072_000073_000074_000075_000076_000077_000078_000079_00007A_000041,
  0x000042_000043_000044_000045_000046_000047_000048_000049_00004A_00004B_00004C_00004D,
  0x00004E_00004F_000050_000051_000052_000053_000054_000055_000056_000057_000058_000059,
  0x00005A_000061_000062_000063_000064_000065_000066_000067_000068_000069_00006A_00006B,
  0x00006C_00006D_00006E_00006F_000070_000071_000072_000073_000074_000075_000076_000077,
  0x000078_000079_00007A_000041_000042_000043_000044_000045_000046_000047_000048_000049,
  0x00004A_00004B_00004C_00004D_00004E_00004F_000050_000051_000052_000053_000054_000055,
  0x000056_000057_000058_000059_00005A_000061_000062_000063_000064_000065_000066_000067,
  0x000068_000069_00006A_00006B_00006C_00006D_00006E_00006F_000070_000071_000072_000073,
  0x000074_000075_000076_000077_000078_000079_00007A_000041_000042_000043_000044_000045,
  0x000046_000047_000048_000049_00004A_00004B_00004C_00004D_00004E_00004F_000050_000051,
  0x000052_000053_000054_000055_000056_000057_000058_000059_00005A_000061_000062_000063,
  0x000064_000065_000066_000067_000068_000069_00006A_00006B_00006C_00006D_00006E_00006F,
  0x000070_000071_000072_000073_000074_000075_000076_000077_000078_000079_00007A_000131,
  0x000237_000391_000392_000393_000394_000395_000396_000397_000398_000399_00039A_00039B,
  0x00039C_00039D_00039E_00039F_0003A0_0003A1_0003F4_0003A3_0003A4_0003A5_0003A6_0003A7,
  0x0003A8_0003A9_002207_0003B1_0003B2_0003B3_0003B4_0003B5_0003B6_0003B7_0003B8_0003B9,
  0x0003BA_0003BB_0003BC_0003BD_0003BE_0003BF_0003C0_0003C1_0003C2_0003C3_0003C4_0003C5,
  0x0003C6_0003C7_0003C8_0003C9_002202_0003F5_0003D1_0003F0_0003D5_0003F1_0003D6_000391,
  0x000392_000393_000394_000395_000396_000397_000398_000399_00039A_00039B_00039C_00039D,
  0x00039E_00039F_0003A0_0003A1_0003F4_0003A3_0003A4_0003A5_0003A6_0003A7_0003A8_0003A9,
  0x002207_0003B1_0003B2_0003B3_0003B4_0003B5_0003B6_0003B7_0003B8_0003B9_0003BA_0003BB,
  0x0003BC_0003BD_0003BE_0003BF_0003C0_0003C1_0003C2_0003C3_0003C4_0003C5_0003C6_0003C7,
  0x0003C8_0003C9_002202_0003F5_0003D1_0003F0_0003D5_0003F1_0003D6_000391_000392_000393,
  0x000394_000395_000396_000397_000398_000399_00039A_00039B_00039C_00039D_00039E_00039F,
  0x0003A0_0003A1_0003F4_0003A3_0003A4_0003A5_0003A6_0003A7_0003A8_0003A9_002207_0003B1,
  0x0003B2_0003B3_0003B4_0003B5_0003B6_0003B7_0003B8_0003B9_0003BA_0003BB_0003BC_0003BD,
  0x0003BE_0003BF_0003C0_0003C1_0003C2_0003C3_0003C4_0003C5_0003C6_0003C7_0003C8_0003C9,
  0x002202_0003F5_0003D1_0003F0_0003D5_0003F1_0003D6_000391_000392_000393_000394_000395,
  0x000396_000397_000398_000399_00039A_00039B_00039C_00039D_00039E_00039F_0003A0_0003A1,
  0x0003F4_0003A3_0003A4_0003A5_0003A6_0003A7_0003A8_0003A9_002207_0003B1_0003B2_0003B3,
  0x0003B4_0003B5_0003B6_0003B7_0003B8_0003B9_0003BA_0003BB_0003BC_0003BD_0003BE_0003BF,
  0x0003C0_0003C1_0003C2_0003C3_0003C4_0003C5_0003C6_0003C7_0003C8_0003C9_002202_0003F5,
  0x0003D1_0003F0_0003D5_0003F1_0003D6_000391_000392_000393_000394_000395_000396_000397,
  0x000398_000399_00039A_00039B_00039C_00039D_00039E_00039F_0003A0_0003A1_0003F4_0003A3,
  0x0003A4_0003A5_0003A6_0003A7_0003A8_0003A9_002207_0003B1_0003B2_0003B3_0003B4_0003B5,
  0x0003B6_0003B7_0003B8_0003B9_0003BA_0003BB_0003BC_0003BD_0003BE_0003BF_0003C0_0003C1,
  0x0003C2_0003C3_0003C4_0003C5_0003C6_0003C7_0003C8_0003C9_002202_0003F5_0003D1_0003F0,
  0x0003D5_0003F1_0003D6_0003DC_0003DD_000030_000031_000032_000033_000034_000035_000036,
  0x000037_000038_000039_000030_000031_000032_000033_000034_000035_000036_000037_000038,
  0x000039_000030_000031_000032_000033_000034_000035_000036_000037_000038_000039_000030,
  0x000031_000032_000033_000034_000035_000036_000037_000038_000039_000030_000031_000032,
  0x000033_000034_000035_000036_000037_000038_000039_000430_000431_000432_000433_000434,
  0x000435_000436_000437_000438_00043A_00043B_00043C_00043E_00043F_000440_000441_000442,
  0x000443_000444_000445_000446_000447_000448_00044B_00044D_00044E_00A689_0004D9_000456,
  0x000458_0004E9_0004AF_0004CF_000430_000431_000432_000433_000434_000435_000436_000437,
  0x000438_00043A_00043B_00043E_00043F_000441_000443_000444_000445_000446_000447_000448,
  0x00044A_00044B_000491_000456_000455_00045F_0004AB_00A651_0004B1_000627_000628_00062C,
  0x00062F_000648_000632_00062D_000637_00064A_000643_000644_000645_000646_000633_000639,
  0x000641_000635_000642_000631_000634_00062A_00062B_00062E_000630_000636_000638_00063A,
  0x00066E_0006BA_0006A1_00066F_000628_00062C_000647_00062D_00064A_000643_000644_000645,
  0x000646_000633_000639_000641_000635_000642_000634_00062A_00062B_00062E_000636_00063A,
  0x00062C_00062D_00064A_000644_000646_000633_000639_000635_000642_000634_00062E_000636,
  0x00063A_0006BA_00066F_000628_00062C_000647_00062D_000637_00064A_000643_000645_000646,
  0x000633_000639_000641_000635_000642_000634_00062A_00062B_00062E_000636_000638_00063A,
  0x00066E_0006A1_000627_000628_00062C_00062F_000647_000648_000632_00062D_000637_00064A,
  0x000644_000645_000646_000633_000639_000641_000635_000642_000631_000634_00062A_00062B,
  0x00062E_000630_000636_000638_00063A_000628_00062C_00062F_000648_000632_00062D_000637,
  0x00064A_000644_000645_000646_000633_000639_000641_000635_000642_000631_000634_00062A,
  0x00062B_00062E_000630_000636_000638_00063A_000030_00002E_000030_00002C_000031_00002C,
  0x000032_00002C_000033_00002C_000034_00002C_000035_00002C_000036_00002C_000037_00002C,
  0x000038_00002C_000039_00002C_000028_000041_000029_000028_000042_000029_000028_000043,
  0x000029_000028_000044_000029_000028_000045_000029_000028_000046_000029_000028_000047,
  0x000029_000028_000048_000029_000028_000049_000029_000028_00004A_000029_000028_00004B,
  0x000029_000028_00004C_000029_000028_00004D_000029_000028_00004E_000029_000028_00004F,
  0x000029_000028_000050_000029_000028_000051_000029_000028_000052_000029_000028_000053,
  0x000029_000028_000054_000029_000028_000055_000029_000028_000056_000029_000028_000057,
  0x000029_000028_000058_000029_000028_000059_000029_000028_00005A_000029_003014_000053,
  0x003015_000043_000052_000043_000044_000057_00005A_000041_000042_000043_000044_000045,
  0x000046_000047_000048_000049_00004A_00004B_00004C_00004D_00004E_00004F_000050_000051,
  0x000052_000053_000054_000055_000056_000057_000058_000059_00005A_000048_000056_00004D,
  0x000056_000053_000044_000053_000053_000050_000050_000056_000057_000043_00004D_000043,
  0x00004D_000044_00004D_000052_000044_00004A_00307B_00304B_0030B3_0030B3_0030B5_00624B,
  0x005B57_0053CC_0030C7_004E8C_00591A_0089E3_005929_004EA4_006620_007121_006599_00524D,
  0x005F8C_00518D_0065B0_00521D_007D42_00751F_008CA9_0058F0_005439_006F14_006295_006355,
  0x004E00_004E09_00904A_005DE6_004E2D_0053F3_006307_008D70_006253_007981_007A7A_005408,
  0x006E80_006709_006708_007533_005272_0055B6_00914D_003014_00672C_003015_003014_004E09,
  0x003015_003014_004E8C_003015_003014_005B89_003015_003014_0070B9_003015_003014_006253,
  0x003015_003014_0076D7_003015_003014_0052DD_003015_003014_006557_003015_005F97_0053EF,
  0x000030_000031_000032_000033_000034_000035_000036_000037_000038_000039_004E3D_004E38,
  0x004E41_020122_004F60_004FAE_004FBB_005002_00507A_005099_0050E7_0050CF_00349E_02063A,
  0x00514D_005154_005164_005177_02051C_0034B9_005167_00518D_02054B_005197_0051A4_004ECC,
  0x0051AC_0051B5_0291DF_0051F5_005203_0034DF_00523B_005246_005272_005277_003515_0052C7,
  0x0052C9_0052E4_0052FA_005305_005306_005317_005349_005351_00535A_005373_00537D_00537F,
  0x00537F_00537F_020A2C_007070_0053CA_0053DF_020B63_0053EB_0053F1_005406_00549E_005438,
  0x005448_005468_0054A2_0054F6_005510_005553_005563_005584_005584_005599_0055AB_0055B3,
  0x0055C2_005716_005606_005717_005651_005674_005207_0058EE_0057CE_0057F4_00580D_00578B,
  0x005832_005831_0058AC_0214E4_0058F2_0058F7_005906_00591A_005922_005962_0216A8_0216EA,
  0x0059EC_005A1B_005A27_0059D8_005A66_0036EE_0036FC_005B08_005B3E_005B3E_0219C8_005BC3,
  0x005BD8_005BE7_005BF3_021B18_005BFF_005C06_005F53_005C22_003781_005C60_005C6E_005CC0,
  0x005C8D_021DE4_005D43_021DE6_005D6E_005D6B_005D7C_005DE1_005DE2_00382F_005DFD_005E28,
  0x005E3D_005E69_003862_022183_00387C_005EB0_005EB3_005EB6_005ECA_02A392_005EFE_022331,
  0x022331_008201_005F22_005F22_0038C7_0232B8_0261DA_005F62_005F6B_0038E3_005F9A_005FCD,
  0x005FD7_005FF9_006081_00393A_00391C_006094_0226D4_0060C7_006148_00614C_00614E_00614C,
  0x00617A_00618E_0061B2_0061A4_0061AF_0061DE_0061F2_0061F6_006210_00621B_00625D_0062B1,
  0x0062D4_006350_022B0C_00633D_0062FC_006368_006383_0063E4_022BF1_006422_0063C5_0063A9,
  0x003A2E_006469_00647E_00649D_006477_003A6C_00654F_00656C_02300A_0065E3_0066F8_006649,
  0x003B19_006691_003B08_003AE4_005192_005195_006700_00669C_0080AD_0043D9_006717_00671B,
  0x006721_00675E_006753_0233C3_003B49_0067FA_006785_006852_006885_02346D_00688E_00681F,
  0x006914_003B9D_006942_0069A3_0069EA_006AA8_0236A3_006ADB_003C18_006B21_0238A7_006B54,
  0x003C4E_006B72_006B9F_006BBA_006BBB_023A8D_021D0B_023AFA_006C4E_023CBC_006CBF_006CCD,
  0x006C67_006D16_006D3E_006D77_006D41_006D69_006D78_006D85_023D1E_006D34_006E2F_006E6E,
  0x003D33_006ECB_006EC7_023ED1_006DF9_006F6E_023F5E_023F8E_006FC6_007039_00701E_00701B,
  0x003D96_00704A_00707D_007077_0070AD_020525_007145_024263_00719C_0243AB_007228_007235,
  0x007250_024608_007280_007295_024735_024814_00737A_00738B_003EAC_0073A5_003EB8_003EB8,
  0x007447_00745C_007471_007485_0074CA_003F1B_007524_024C36_00753E_024C92_007570_02219F,
  0x007610_024FA1_024FB8_025044_003FFC_004008_0076F4_0250F3_0250F2_025119_025133_00771E,
  0x00771F_00771F_00774A_004039_00778B_004046_004096_02541D_00784E_00788C_0078CC_0040E3,
  0x025626_007956_02569A_0256C5_00798F_0079EB_00412F_007A40_007A4A_007A4F_02597C_025AA7,
  0x025AA7_007AEE_004202_025BAB_007BC6_007BC9_004227_025C80_007CD2_0042A0_007CE8_007CE3,
  0x007D00_025F86_007D63_004301_007DC7_007E02_007E45_004334_026228_026247_004359_0262D9,
  0x007F7A_02633E_007F95_007FFA_008005_0264DA_026523_008060_0265A8_008070_02335F_0043D5,
  0x0080B2_008103_00440B_00813E_005AB5_0267A7_0267B5_023393_02339C_008201_008204_008F9E,
  0x00446B_008291_00828B_00829D_0052B3_0082B1_0082B3_0082BD_0082E6_026B3C_0082E5_00831D,
  0x008363_0083AD_008323_0083BD_0083E7_008457_008353_0083CA_0083CC_0083DC_026C36_026D6B,
  0x026CD5_00452B_0084F1_0084F3_008516_0273CA_008564_026F2C_00455D_004561_026FB1_0270D2,
  0x00456B_008650_00865C_008667_008669_0086A9_008688_00870E_0086E2_008779_008728_00876B,
  0x008786_0045D7_0087E1_008801_0045F9_008860_008863_027667_0088D7_0088DE_004635_0088FA,
  0x0034BB_0278AE_027966_0046BE_0046C7_008AA0_008AED_008B8A_008C55_027CA8_008CAB_008CC1,
  0x008D1B_008D77_027F2F_020804_008DCB_008DBC_008DF0_0208DE_008ED4_008F38_0285D2_0285ED,
  0x009094_0090F1_009111_02872E_00911B_009238_0092D7_0092D8_00927C_0093F9_009415_028BFA,
  0x00958B_004995_0095B7_028D77_0049E6_0096C3_005DB2_009723_029145_02921A_004A6E_004A76,
  0x0097E0_02940A_004AB2_029496_00980B_00980B_009829_0295B6_0098E2_004B33_009929_0099A7,
  0x0099C2_0099FE_004BCE_029B30_009B12_009C40_009CFD_004CCE_004CED_009D67_02A0CE_004CF8,
  0x02A105_02A20E_02A291_009EBB_004D56_009EF9_009EFE_009F05_009F0F_009F16_009F3B_02A600]

end UnicodeText.Data
