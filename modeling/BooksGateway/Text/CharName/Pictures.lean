/-!
# Names of pictures

The names of games, pictures and tags. Each row has the first character and the names from it on, as
`BooksGateway.Text.CharName` reads them.
-/

namespace BooksGateway.Text.CharName

/-- The names from U+1F000 to U+E007F, in rows. -/
def pictures : List (Nat × String) := [
  (0x1F000, "aMAHJONG TILE EAST WINDcSOUTHncWESTncNORTHncRED DRAGONcGREENncWHITEn"),
  (0x1F007, "cONE OF CHARACTERScTWOocTHREEocFOURocFIVEocSIXocSEVENocEIGHTocNINEocONE OF BAMBOOS"),
  (0x1F011, "cTWOocTHREEocFOURocFIVEocSIXocSEVENocEIGHTocNINEocONE OF CIRCLEScTWOocTHREEocFOURo"),
  (0x1F01D, "cFIVEocSIXocSEVENocEIGHTocNINEocPLUMcORCHIDcBAMBOOcCHRYSANTHEMUMcSPRINGcSUMMER"),
  (0x1F028, "cAUTUMNcWINTERcJOKERcBACK"),
  (0x1F030, "aDOMINO TILE HORIZONTALncHORIZONTAL-00-00cHORIZONTAL-00-01cHORIZONTAL-00-02"),
  (0x1F034, "cHORIZONTAL-00-03cHORIZONTAL-00-04cHORIZONTAL-00-05cHORIZONTAL-00-06"),
  (0x1F038, "cHORIZONTAL-01-00cHORIZONTAL-01-01cHORIZONTAL-01-02cHORIZONTAL-01-03"),
  (0x1F03C, "cHORIZONTAL-01-04cHORIZONTAL-01-05cHORIZONTAL-01-06cHORIZONTAL-02-00"),
  (0x1F040, "cHORIZONTAL-02-01cHORIZONTAL-02-02cHORIZONTAL-02-03cHORIZONTAL-02-04"),
  (0x1F044, "cHORIZONTAL-02-05cHORIZONTAL-02-06cHORIZONTAL-03-00cHORIZONTAL-03-01"),
  (0x1F048, "cHORIZONTAL-03-02cHORIZONTAL-03-03cHORIZONTAL-03-04cHORIZONTAL-03-05"),
  (0x1F04C, "cHORIZONTAL-03-06cHORIZONTAL-04-00cHORIZONTAL-04-01cHORIZONTAL-04-02"),
  (0x1F050, "cHORIZONTAL-04-03cHORIZONTAL-04-04cHORIZONTAL-04-05cHORIZONTAL-04-06"),
  (0x1F054, "cHORIZONTAL-05-00cHORIZONTAL-05-01cHORIZONTAL-05-02cHORIZONTAL-05-03"),
  (0x1F058, "cHORIZONTAL-05-04cHORIZONTAL-05-05cHORIZONTAL-05-06cHORIZONTAL-06-00"),
  (0x1F05C, "cHORIZONTAL-06-01cHORIZONTAL-06-02cHORIZONTAL-06-03cHORIZONTAL-06-04"),
  (0x1F060, "cHORIZONTAL-06-05cHORIZONTAL-06-06cVERTICAL BACKcVERTICAL-00-00cVERTICAL-00-01"),
  (0x1F065, "cVERTICAL-00-02cVERTICAL-00-03cVERTICAL-00-04cVERTICAL-00-05cVERTICAL-00-06"),
  (0x1F06A, "cVERTICAL-01-00cVERTICAL-01-01cVERTICAL-01-02cVERTICAL-01-03cVERTICAL-01-04"),
  (0x1F06F, "cVERTICAL-01-05cVERTICAL-01-06cVERTICAL-02-00cVERTICAL-02-01cVERTICAL-02-02"),
  (0x1F074, "cVERTICAL-02-03cVERTICAL-02-04cVERTICAL-02-05cVERTICAL-02-06cVERTICAL-03-00"),
  (0x1F079, "cVERTICAL-03-01cVERTICAL-03-02cVERTICAL-03-03cVERTICAL-03-04cVERTICAL-03-05"),
  (0x1F07E, "cVERTICAL-03-06cVERTICAL-04-00cVERTICAL-04-01cVERTICAL-04-02cVERTICAL-04-03"),
  (0x1F083, "cVERTICAL-04-04cVERTICAL-04-05cVERTICAL-04-06cVERTICAL-05-00cVERTICAL-05-01"),
  (0x1F088, "cVERTICAL-05-02cVERTICAL-05-03cVERTICAL-05-04cVERTICAL-05-05cVERTICAL-05-06"),
  (0x1F08D, "cVERTICAL-06-00cVERTICAL-06-01cVERTICAL-06-02cVERTICAL-06-03cVERTICAL-06-04"),
  (0x1F092, "cVERTICAL-06-05cVERTICAL-06-06"),
  (0x1F0A0, "aPLAYING CARD BACKcACE OF SPADEScTWOocTHREEocFOURocFIVEocSIXocSEVENocEIGHTocNINEo"),
  (0x1F0AA, "cTENocJACKocKNIGHTocQUEENocKINGo"),
  (0x1F0B1, "cACE OF HEARTScTWOocTHREEocFOURocFIVEocSIXocSEVENocEIGHTocNINEocTENocJACKocKNIGHTo"),
  (0x1F0BD, "cQUEENocKINGocRED JOKER"),
  (0x1F0C1, "cACE OF DIAMONDScTWOocTHREEocFOURocFIVEocSIXocSEVENocEIGHTocNINEocTENocJACKocKNIGHTo"),
  (0x1F0CD, "cQUEENocKINGocBLACK JOKER"),
  (0x1F0D1, "cACE OF CLUBScTWOocTHREEocFOURocFIVEocSIXocSEVENocEIGHTocNINEocTENocJACKocKNIGHTo"),
  (0x1F0DD, "cQUEENocKINGocWHITE JOKERcFOOLcTRUMP-1cTRUMP-2cTRUMP-3cTRUMP-4cTRUMP-5cTRUMP-6"),
  (0x1F0E7, "cTRUMP-7cTRUMP-8cTRUMP-9cTRUMP-10cTRUMP-11cTRUMP-12cTRUMP-13cTRUMP-14cTRUMP-15"),
  (0x1F0F0, "cTRUMP-16cTRUMP-17cTRUMP-18cTRUMP-19cTRUMP-20cTRUMP-21"),
  (0x1F100, "aDIGIT ZERO FULL STOPcCOMMAbONEnbTWOnbTHREEnbFOURnbFIVEnbSIXnbSEVENnbEIGHTnbNINEn"),
  (0x1F10B, "aDINGBAT CIRCLED SANS-SERIF DIGIT ZERObNEGATIVEqaCIRCLED ZERO WITH SLASH"),
  (0x1F10E, "bANTICLOCKWISE ARROWbDOLLAR SIGN WITH OVERLAID BACKSLASH"),
  (0x1F110, "aPARENTHESIZED LATIN CAPITAL LETTER AeBeCeDeEeFeGeHeIeJeKeLeMeNeOePeQeReSeTeUeVeWeX"),
  (0x1F128, "eYeZaTORTOISE SHELL BRACKETED LATIN CAPITAL LETTER S"),
  (0x1F12B, "aCIRCLED ITALIC LATIN CAPITAL LETTER CfRbCDbWZaCOPYLEFT SYMBOL"),
  (0x1F130, "aSQUARED LATIN CAPITAL LETTER AeBeCeDeEeFeGeHeIeJeKeLeMeNeOePeQeReSeTeUeVeWeXeYeZbHV"),
  (0x1F14B, "bMVbSDbSSbPPVbWCaNEGATIVE CIRCLED LATIN CAPITAL LETTER AfBfCfDfEfFfGfHfIfJfKfLfMfNfO"),
  (0x1F15F, "fPfQfRfSfTfUfVfWfXfYfZaRAISED MC SIGNbMDnbMRnaCIRCLED CCbC WITH OVERLAID BACKSLASH"),
  (0x1F16F, "bHUMAN FIGUREaNEGATIVE SQUARED LATIN CAPITAL LETTER AfBfCfDfEfFfGfHfIfJfKfLfMfNfOfP"),
  (0x1F180, "fQfRfSfTfUfVfWfXfYfZaCROSSED NEGATIVE SQUARED LATIN CAPITAL LETTER P"),
  (0x1F18B, "aNEGATIVE SQUARED ICcPAcSAcABcWCaSQUARE DJaSQUARED CLbCOOLbFREEbIDbNEWbNGbOKbSOS"),
  (0x1F199, "bUP WITH EXCLAMATION MARKbVSbTHREE DbSECOND SCREENbTWO KbFOURnbEIGHTnbFIVE POINT ONE"),
  (0x1F1A1, "bSEVENobTWENTY-TWO POINT TWObSIXTY PbONE HUNDRED TWENTYnbLATIN SMALL LETTER DbHCbHDR"),
  (0x1F1A8, "bHI-RESbLOSSLESSbSHVbUHDbVODaMASK WORK SYMBOL"),
  (0x1F1E6, "aREGIONAL INDICATOR SYMBOL LETTER AeBeCeDeEeFeGeHeIeJeKeLeMeNeOePeQeReSeTeUeVeWeXeY"),
  (0x1F1FF, "eZaSQUARE HIRAGANA HOKAaSQUARED KATAKANA KOKOcSA"),
  (0x1F210, "bCJK UNIFIED IDEOGRAPH-624BdIDEOGRAPH-5B57dIDEOGRAPH-53CCbKATAKANA DE"),
  (0x1F214, "bCJK UNIFIED IDEOGRAPH-4E8CdIDEOGRAPH-591AdIDEOGRAPH-89E3dIDEOGRAPH-5929"),
  (0x1F218, "dIDEOGRAPH-4EA4dIDEOGRAPH-6620dIDEOGRAPH-7121dIDEOGRAPH-6599dIDEOGRAPH-524D"),
  (0x1F21D, "dIDEOGRAPH-5F8CdIDEOGRAPH-518DdIDEOGRAPH-65B0dIDEOGRAPH-521DdIDEOGRAPH-7D42"),
  (0x1F222, "dIDEOGRAPH-751FdIDEOGRAPH-8CA9dIDEOGRAPH-58F0dIDEOGRAPH-5439dIDEOGRAPH-6F14"),
  (0x1F227, "dIDEOGRAPH-6295dIDEOGRAPH-6355dIDEOGRAPH-4E00dIDEOGRAPH-4E09dIDEOGRAPH-904A"),
  (0x1F22C, "dIDEOGRAPH-5DE6dIDEOGRAPH-4E2DdIDEOGRAPH-53F3dIDEOGRAPH-6307dIDEOGRAPH-8D70"),
  (0x1F231, "dIDEOGRAPH-6253dIDEOGRAPH-7981dIDEOGRAPH-7A7AdIDEOGRAPH-5408dIDEOGRAPH-6E80"),
  (0x1F236, "dIDEOGRAPH-6709dIDEOGRAPH-6708dIDEOGRAPH-7533dIDEOGRAPH-5272dIDEOGRAPH-55B6"),
  (0x1F23B, "dIDEOGRAPH-914D"),
  (0x1F240, "aTORTOISE SHELL BRACKETED CJK UNIFIED IDEOGRAPH-672CfIDEOGRAPH-4E09fIDEOGRAPH-4E8C"),
  (0x1F243, "fIDEOGRAPH-5B89fIDEOGRAPH-70B9fIDEOGRAPH-6253fIDEOGRAPH-76D7fIDEOGRAPH-52DD"),
  (0x1F248, "fIDEOGRAPH-6557"),
  (0x1F250, "aCIRCLED IDEOGRAPH ADVANTAGEcACCEPT"),
  (0x1F260, "aROUNDED SYMBOL FOR FUdLUdSHOUdXIdSHUANGXIdCAI"),
  (0x1F300, "aCYCLONEaFOGGYaCLOSED UMBRELLAaNIGHT WITH STARSaSUNRISE OVER MOUNTAINSb"),
  (0x1F306, "aCITYSCAPE AT DUSKaSUNSET OVER BUILDINGSaRAINBOWaBRIDGE AT NIGHTaWATER WAVEaVOLCANO"),
  (0x1F30C, "aMILKY WAYaEARTH GLOBE EUROPE-AFRICAcAMERICAScASIA-AUSTRALIAaGLOBE WITH MERIDIANS"),
  (0x1F311, "aNEW MOON SYMBOLaWAXING CRESCENToaFIRST QUARTERoaWAXING GIBBOUSoaFULLo"),
  (0x1F316, "aWANING GIBBOUSoaLAST QUARTERoaWANING CRESCENToaCRESCENT MOONaNEW MOON WITH FACE"),
  (0x1F31B, "aFIRST QUARTERpaLASTqaFULLpaSUNoaGLOWING STARaSHOOTINGnaTHERMOMETERaBLACK DROPLET"),
  (0x1F323, "aWHITE SUNcWITH SMALL CLOUDcBEHINDneWITH RAINapcSNOWcLIGHTNINGcTORNADOaFOG"),
  (0x1F32C, "aWIND BLOWING FACEaHOT DOGaTACOaBURRITOaCHESTNUTaSEEDLINGaEVERGREEN TREEaDECIDUOUSn"),
  (0x1F334, "aPALMnaCACTUSaHOT PEPPERaTULIPaCHERRY BLOSSOMaROSEaHIBISCUSaSUNFLOWERaBLOSSOM"),
  (0x1F33D, "aEAR OF MAIZEcRICEaHERBaFOUR LEAF CLOVERaMAPLE LEAFaFALLENnaLEAF FLUTTERING IN WIND"),
  (0x1F344, "aMUSHROOMaTOMATOaAUBERGINEaGRAPESaMELONaWATERMELONaTANGERINEaLEMONaBANANAaPINEAPPLE"),
  (0x1F34E, "aRED APPLEaGREENnaPEARaPEACHaCHERRIESaSTRAWBERRYaHAMBURGERaSLICE OF PIZZA"),
  (0x1F356, "aMEAT ON BONEaPOULTRY LEGaRICE CRACKERbBALLaCOOKED RICEaCURRY ANDnaSTEAMING BOWL"),
  (0x1F35D, "aSPAGHETTIaBREADaFRENCH FRIESaROASTED SWEET POTATOaDANGOaODENaSUSHIaFRIED SHRIMP"),
  (0x1F365, "aFISH CAKE WITH SWIRL DESIGNaSOFT ICE CREAMaSHAVED ICEaICE CREAMaDOUGHNUTaCOOKIE"),
  (0x1F36B, "aCHOCOLATE BARaCANDYaLOLLIPOPaCUSTARDaHONEY POTaSHORTCAKEaBENTO BOXaPOT OF FOOD"),
  (0x1F373, "aCOOKINGaFORK AND KNIFEaTEACUP WITHOUT HANDLEaSAKE BOTTLE AND CUPaWINE GLASS"),
  (0x1F378, "aCOCKTAILnaTROPICAL DRINKaBEER MUGaCLINKING BEER MUGSaBABY BOTTLE"),
  (0x1F37D, "aFORK AND KNIFE WITH PLATEaBOTTLE WITH POPPING CORKaPOPCORNaRIBBONaWRAPPED PRESENT"),
  (0x1F382, "aBIRTHDAY CAKEaJACK-O-LANTERNaCHRISTMAS TREEaFATHER CHRISTMASaFIREWORKS"),
  (0x1F387, "aFIREWORK SPARKLERaBALLOONaPARTY POPPERaCONFETTI BALLaTANABATA TREEaCROSSED FLAGS"),
  (0x1F38D, "aPINE DECORATIONaJAPANESE DOLLSaCARP STREAMERaWIND CHIMEaMOON VIEWING CEREMONY"),
  (0x1F392, "aSCHOOL SATCHELaGRADUATION CAPaHEART WITH TIP ON THE LEFTaBOUQUET OF FLOWERS"),
  (0x1F396, "aMILITARY MEDALaREMINDER RIBBONaMUSICAL KEYBOARD WITH JACKSaSTUDIO MICROPHONE"),
  (0x1F39A, "aLEVEL SLIDERaCONTROL KNOBSaBEAMED ASCENDING MUSICAL NOTESbDESCENDINGoaFILM FRAMES"),
  (0x1F39F, "aADMISSION TICKETSaCAROUSEL HORSEaFERRIS WHEELaROLLER COASTERaFISHING POLE AND FISH"),
  (0x1F3A4, "aMICROPHONEaMOVIE CAMERAaCINEMAaHEADPHONEaARTIST PALETTEaTOP HATaCIRCUS TENTaTICKET"),
  (0x1F3AC, "aCLAPPER BOARDaPERFORMING ARTSaVIDEO GAMEaDIRECT HITaSLOT MACHINEaBILLIARDSaGAME DIE"),
  (0x1F3B3, "aBOWLINGaFLOWER PLAYING CARDSaMUSICAL NOTEaMULTIPLE MUSICAL NOTESaSAXOPHONEaGUITAR"),
  (0x1F3B9, "aMUSICAL KEYBOARDaTRUMPETaVIOLINaMUSICAL SCOREaRUNNING SHIRT WITH SASH"),
  (0x1F3BE, "aTENNIS RACQUET AND BALLaSKI AND SKI BOOTaBASKETBALL AND HOOPaCHEQUERED FLAG"),
  (0x1F3C2, "aSNOWBOARDERaRUNNERaSURFERaSPORTS MEDALaTROPHYaHORSE RACINGaAMERICAN FOOTBALLaRUGBYn"),
  (0x1F3CA, "aSWIMMERaWEIGHT LIFTERaGOLFERaRACING MOTORCYCLEbCARaCRICKET BAT AND BALLaVOLLEYBALL"),
  (0x1F3D1, "aFIELD HOCKEY STICK AND BALLaICE HOCKEY STICK AND PUCKaTABLE TENNIS PADDLE AND BALL"),
  (0x1F3D4, "aSNOW CAPPED MOUNTAINaCAMPINGaBEACH WITH UMBRELLAaBUILDING CONSTRUCTION"),
  (0x1F3D8, "aHOUSE BUILDINGSaCITYSCAPEaDERELICT HOUSE BUILDINGaCLASSICALnaDESERTbISLAND"),
  (0x1F3DE, "aNATIONAL PARKaSTADIUMaHOUSE BUILDINGbWITH GARDENaOFFICE BUILDING"),
  (0x1F3E3, "aJAPANESE POST OFFICEaEUROPEANoaHOSPITALaBANKaAUTOMATED TELLER MACHINEaHOTELaLOVEn"),
  (0x1F3EA, "aCONVENIENCE STOREaSCHOOLaDEPARTMENT STOREaFACTORYaIZAKAYA LANTERNaJAPANESE CASTLE"),
  (0x1F3F0, "aEUROPEANnaWHITE PENNANTaBLACKnaWAVING WHITE FLAGbBLACKnaROSETTEaBLACKnaLABEL"),
  (0x1F3F8, "aBADMINTON RACQUET AND SHUTTLECOCKaBOW AND ARROWaAMPHORA"),
  (0x1F3FB, "aEMOJI MODIFIER FITZPATRICK TYPE-1-2dTYPE-3dTYPE-4dTYPE-5dTYPE-6aRATaMOUSEaOX"),
  (0x1F403, "aWATER BUFFALOaCOWaTIGERaLEOPARDaRABBITaCATaDRAGONaCROCODILEaWHALEaSNAILaSNAKEaHORSE"),
  (0x1F40F, "aRAMaGOATaSHEEPaMONKEYaROOSTERaCHICKENaDOGaPIGaBOARaELEPHANTaOCTOPUSaSPIRAL SHELL"),
  (0x1F41B, "aBUGaANTaHONEYBEEaLADY BEETLEaFISHaTROPICALnaBLOWFISHaTURTLEaHATCHING CHICKaBABYn"),
  (0x1F425, "aFRONT-FACINGoaBIRDaPENGUINaKOALAaPOODLEaDROMEDARY CAMELaBACTRIANnaDOLPHIN"),
  (0x1F42D, "aMOUSE FACEaCOWnaTIGERnaRABBITnaCATnaDRAGONnaSPOUTING WHALEaHORSE FACEaMONKEYnaDOGn"),
  (0x1F437, "aPIGnaFROGnaHAMSTERnaWOLFnaBEARnaPANDAnaPIG NOSEaPAW PRINTSaCHIPMUNKaEYESaEYEaEAR"),
  (0x1F443, "aNOSEaMOUTHaTONGUEaWHITE UP POINTING BACKHAND INDEXbDOWNpbLEFTpbRIGHTp"),
  (0x1F44A, "aFISTED HAND SIGNaWAVINGoaOKoaTHUMBS UPnbDOWNnaCLAPPING HANDSnaOPENoaCROWN"),
  (0x1F452, "aWOMANS HATaEYEGLASSESaNECKTIEaT-SHIRTaJEANSaDRESSaKIMONOaBIKINIaWOMANS CLOTHES"),
  (0x1F45B, "aPURSEaHANDBAGaPOUCHaMANS SHOEaATHLETICnaHIGH-HEELEDnaWOMANS SANDALbBOOTSaFOOTPRINTS"),
  (0x1F464, "aBUST IN SILHOUETTEaBUSTSoaBOYaGIRLaMANaWOMANaFAMILYaMAN AND WOMAN HOLDING HANDS"),
  (0x1F46C, "aTWO MENobWOMENoaPOLICE OFFICERaWOMAN WITH BUNNY EARSaBRIDE WITH VEIL"),
  (0x1F471, "aPERSON WITH BLOND HAIRaMAN WITH GUA PI MAOcTURBANaOLDER MANbWOMANaBABY"),
  (0x1F477, "aCONSTRUCTION WORKERaPRINCESSaJAPANESE OGREbGOBLINaGHOSTaBABY ANGEL"),
  (0x1F47D, "aEXTRATERRESTRIAL ALIENaALIEN MONSTERaIMPaSKULLaINFORMATION DESK PERSONaGUARDSMAN"),
  (0x1F483, "aDANCERaLIPSTICKaNAIL POLISHaFACE MASSAGEaHAIRCUTaBARBER POLEaSYRINGEaPILLaKISS MARK"),
  (0x1F48C, "aLOVE LETTERaRINGaGEM STONEaKISSaBOUQUETaCOUPLE WITH HEARTaWEDDINGaBEATING HEART"),
  (0x1F494, "aBROKENnaTWO HEARTSaSPARKLING HEARTaGROWINGnaHEART WITH ARROWaBLUE HEARTaGREENn"),
  (0x1F49B, "aYELLOWnaPURPLEnaHEART WITH RIBBONaREVOLVING HEARTSaHEART DECORATION"),
  (0x1F4A0, "aDIAMOND SHAPE WITH A DOT INSIDEaELECTRIC LIGHT BULBaANGER SYMBOLaBOMB"),
  (0x1F4A4, "aSLEEPING SYMBOLaCOLLISIONnaSPLASHING SWEATnaDROPLETaDASH SYMBOLaPILE OF POO"),
  (0x1F4AA, "aFLEXED BICEPSaDIZZY SYMBOLaSPEECH BALLOONaTHOUGHTnaWHITE FLOWER"),
  (0x1F4AF, "aHUNDRED POINTS SYMBOLaMONEY BAGaCURRENCY EXCHANGEaHEAVY DOLLAR SIGNaCREDIT CARD"),
  (0x1F4B4, "aBANKNOTE WITH YEN SIGNcDOLLARncEUROncPOUNDnaMONEY WITH WINGS"),
  (0x1F4B9, "aCHART WITH UPWARDS TREND AND YEN SIGNaSEATaPERSONAL COMPUTERaBRIEFCASEaMINIDISC"),
  (0x1F4BE, "aFLOPPY DISKaOPTICAL DISCaDVDaFILE FOLDERaOPENoaPAGE WITH CURLbFACING UPaCALENDAR"),
  (0x1F4C6, "aTEAR-OFFnaCARD INDEXaCHART WITH UPWARDS TRENDcDOWNWARDSnaBAR CHARTaCLIPBOARD"),
  (0x1F4CC, "aPUSHPINaROUNDnaPAPERCLIPaSTRAIGHT RULERaTRIANGULARnaBOOKMARK TABSaLEDGERaNOTEBOOK"),
  (0x1F4D4, "bWITH DECORATIVE COVERaCLOSED BOOKaOPENnaGREENnaBLUEnaORANGEnaBOOKSaNAME BADGE"),
  (0x1F4DC, "aSCROLLaMEMOaTELEPHONE RECEIVERaPAGERaFAX MACHINEaSATELLITE ANTENNA"),
  (0x1F4E2, "aPUBLIC ADDRESS LOUDSPEAKERaCHEERING MEGAPHONEaOUTBOX TRAYaINBOXnaPACKAGE"),
  (0x1F4E7, "aE-MAIL SYMBOLaINCOMING ENVELOPEaENVELOPE WITH DOWNWARDS ARROW ABOVE"),
  (0x1F4EA, "aCLOSED MAILBOX WITH LOWERED FLAGdRAISEDnaOPENqdLOWEREDnaPOSTBOXaPOSTAL HORN"),
  (0x1F4F0, "aNEWSPAPERaMOBILE PHONEcWITH RIGHTWARDS ARROW AT LEFTaVIBRATION MODE"),
  (0x1F4F4, "aMOBILE PHONE OFFaNO MOBILE PHONESaANTENNA WITH BARSaCAMERAbWITH FLASHaVIDEO CAMERA"),
  (0x1F4FA, "aTELEVISIONaRADIOaVIDEOCASSETTEaFILM PROJECTORaPORTABLE STEREOaPRAYER BEADS"),
  (0x1F500, "aTWISTED RIGHTWARDS ARROWSaCLOCKWISE RIGHTWARDS AND LEFTWARDS OPEN CIRCLEn"),
  (0x1F502, "hWITH CIRCLED ONE OVERLAYbDOWNWARDS AND UPWARDS OPEN CIRCLE ARROWSaANTICLOCKWISEs"),
  (0x1F505, "aLOW BRIGHTNESS SYMBOLaHIGHoaSPEAKER WITH CANCELLATION STROKEbbWITH ONE SOUND WAVE"),
  (0x1F50A, "cTHREE SOUND WAVESaBATTERYaELECTRIC PLUGaLEFT-POINTING MAGNIFYING GLASS"),
  (0x1F50E, "aRIGHT-POINTINGoaLOCK WITH INK PENaCLOSED LOCK WITH KEYanaLOCKaOPENnaBELL"),
  (0x1F515, "bWITH CANCELLATION STROKEaBOOKMARKaLINK SYMBOLaRADIO BUTTON"),
  (0x1F519, "aBACK WITH LEFTWARDS ARROW ABOVEaENDqaON WITH EXCLAMATION MARK WITH LEFT RIGHTo"),
  (0x1F51C, "aSOON WITH RIGHTWARDSoaTOP WITH UPWARDSoaNO ONE UNDER EIGHTEEN SYMBOLaKEYCAP TEN"),
  (0x1F520, "aINPUT SYMBOL FOR LATIN CAPITAL LETTERSeSMALLndNUMBERSdSYMBOLSdLATIN LETTERSaFIRE"),
  (0x1F526, "aELECTRIC TORCHaWRENCHaHAMMERaNUT AND BOLTaHOCHOaPISTOLaMICROSCOPEaTELESCOPE"),
  (0x1F52E, "aCRYSTAL BALLaSIX POINTED STAR WITH MIDDLE DOTaJAPANESE SYMBOL FOR BEGINNER"),
  (0x1F531, "aTRIDENT EMBLEMaBLACK SQUARE BUTTONaWHITEoaLARGE RED CIRCLEbBLUEnbORANGE DIAMOND"),
  (0x1F537, "bBLUEnaSMALL ORANGEnbBLUEnaUP-POINTING RED TRIANGLEaDOWN-POINTINGo"),
  (0x1F53C, "aUP-POINTING SMALLoaDOWN-POINTINGpaLOWER RIGHT SHADOWED WHITE CIRCLEaUPPERq"),
  (0x1F540, "aCIRCLED CROSS POMMEEaCROSS POMMEE WITH HALF-CIRCLE BELOWc"),
  (0x1F543, "aNOTCHED LEFT SEMICIRCLE WITH THREE DOTSbRIGHTqaSYMBOL FOR MARKS CHAPTER"),
  (0x1F546, "aWHITE LATIN CROSSaHEAVYoaCELTICnaOM SYMBOLaDOVE OF PEACEaKAABAaMOSQUEaSYNAGOGUE"),
  (0x1F54E, "aMENORAH WITH NINE BRANCHESaBOWL OF HYGIEIAaCLOCK FACE ONE OCLOCKcTWOncTHREEncFOURn"),
  (0x1F554, "cFIVEncSIXncSEVENncEIGHTncNINEncTENncELEVENncTWELVEncONE-THIRTYcTWO-THIRTY"),
  (0x1F55E, "cTHREE-THIRTYcFOUR-THIRTYcFIVE-THIRTYcSIX-THIRTYcSEVEN-THIRTYcEIGHT-THIRTY"),
  (0x1F564, "cNINE-THIRTYcTEN-THIRTYcELEVEN-THIRTYcTWELVE-THIRTYaRIGHT SPEAKER"),
  (0x1F569, "cWITH ONE SOUND WAVEdTHREE SOUND WAVESaBULLHORNbWITH SOUND WAVESaRINGING BELLaBOOK"),
  (0x1F56F, "aCANDLEaMANTELPIECE CLOCKaBLACK SKULL AND CROSSBONESaNO PIRACYaHOLE"),
  (0x1F574, "aMAN IN BUSINESS SUIT LEVITATINGaSLEUTH OR SPYaDARK SUNGLASSESaSPIDERbWEBaJOYSTICK"),
  (0x1F57A, "aMAN DANCINGaLEFT HAND TELEPHONE RECEIVERaTELEPHONE RECEIVER WITH PAGE"),
  (0x1F57D, "aRIGHT HAND TELEPHONE RECEIVERaWHITE TOUCHTONE TELEPHONEaBLACKo"),
  (0x1F580, "aTELEPHONE ON TOP OF MODEMaCLAMSHELL MOBILE PHONEaBACK OF ENVELOPEaSTAMPEDn"),
  (0x1F584, "aENVELOPE WITH LIGHTNINGaFLYING ENVELOPEaPEN OVER STAMPEDnaLINKED PAPERCLIPS"),
  (0x1F588, "aBLACK PUSHPINaLOWER LEFT PENCILcBALLPOINT PENcFOUNTAINncPAINTBRUSHcCRAYON"),
  (0x1F58E, "aLEFT WRITING HANDaTURNED OK HAND SIGNaRAISED HAND WITH FINGERS SPLAYEDaREVERSEDr"),
  (0x1F592, "bTHUMBS UP SIGNcDOWNnbVICTORY HANDbHAND WITH MIDDLE FINGER EXTENDED"),
  (0x1F596, "aRAISED HAND WITH PART BETWEEN MIDDLE AND RING FINGERS"),
  (0x1F597, "aWHITE DOWN POINTING LEFT HAND INDEXaSIDEWAYS WHITE LEFT POINTINGncRIGHTo"),
  (0x1F59A, "bBLACK LEFTocRIGHToaBLACK LEFT POINTING BACKHANDnbRIGHTpaSIDEWAYS WHITE UP POINTINGn"),
  (0x1F59F, "cDOWNobBLACK UPocDOWNoaBLACK UP POINTING BACKHANDnbDOWNpbHEARTaDESKTOP COMPUTER"),
  (0x1F5A6, "aKEYBOARD AND MOUSEaTHREE NETWORKED COMPUTERSaPRINTERaPOCKET CALCULATOR"),
  (0x1F5AA, "aBLACK HARD SHELL FLOPPY DISKaWHITEqaSOFTpaTAPE CARTRIDGEaWIRED KEYBOARD"),
  (0x1F5AF, "aONE BUTTON MOUSEaTWOoaTHREEoaTRACKBALLaOLD PERSONAL COMPUTERaHARD DISKaSCREEN"),
  (0x1F5B6, "aPRINTER ICONaFAXnaOPTICAL DISCnaDOCUMENT WITH TEXTdAND PICTUREcnaFRAMEocTILEScAN X"),
  (0x1F5BF, "aBLACK FOLDERanaOPENnaCARD INDEX DIVIDERSbFILE BOXaFILE CABINETaEMPTY NOTEcPAGEcPAD"),
  (0x1F5C8, "aNOTEbPAGEbPADaEMPTY DOCUMENTbPAGEbPAGESaDOCUMENTaPAGEaPAGESaWASTEBASKET"),
  (0x1F5D2, "aSPIRAL NOTE PADbCALENDARnaDESKTOP WINDOWaMINIMIZEaMAXIMIZEaOVERLAP"),
  (0x1F5D8, "aCLOCKWISE RIGHT AND LEFT SEMICIRCLE ARROWSaCANCELLATION XaINCREASE FONT SIZE SYMBOL"),
  (0x1F5DB, "aDECREASEpaCOMPRESSIONaOLD KEYaROLLED-UP NEWSPAPERaPAGE WITH CIRCLED TEXT"),
  (0x1F5E0, "aSTOCK CHARTaDAGGER KNIFEaLIPSaSPEAKING HEAD IN SILHOUETTEaTHREE RAYS ABOVEcBELOW"),
  (0x1F5E6, "cLEFTcRIGHTaLEFT SPEECH BUBBLEaRIGHToaTWO SPEECH BUBBLESaTHREEoaLEFT THOUGHT BUBBLE"),
  (0x1F5ED, "aRIGHToaLEFT ANGERnaRIGHToaMOODnaLIGHTNINGocaBALLOT BOX WITH BALLOTbSCRIPT X"),
  (0x1F5F5, "bBOX WITHobBOLDobBOX WITHpaLIGHT CHECK MARKaBALLOT BOX WITH BOLD CHECKaWORLD MAP"),
  (0x1F5FB, "aMOUNT FUJIaTOKYO TOWERaSTATUE OF LIBERTYaSILHOUETTE OF JAPANaMOYAIaGRINNING FACE"),
  (0x1F601, "cWITH SMILING EYESaFACE WITH TEARS OF JOYaSMILING FACE WITH OPEN MOUTH"),
  (0x1F604, "fAND SMILING EYESgCOLD SWEATgTIGHTLY-CLOSED EYESdHALOdHORNSaWINKING FACE"),
  (0x1F60A, "aSMILING FACE WITH SMILING EYESaFACE SAVOURING DELICIOUS FOODaRELIEVED FACE"),
  (0x1F60D, "aSMILING FACE WITH HEART-SHAPED EYESdSUNGLASSESaSMIRKING FACEaNEUTRALn"),
  (0x1F611, "aEXPRESSIONLESSnaUNAMUSEDnaFACE WITH COLD SWEATaPENSIVE FACEaCONFUSEDnaCONFOUNDEDn"),
  (0x1F617, "aKISSINGnaFACE THROWING A KISSaKISSING FACE WITH SMILING EYESdCLOSEDn"),
  (0x1F61B, "aFACE WITH STUCK-OUT TONGUEeAND WINKING EYEfTIGHTLY-CLOSED EYESaDISAPPOINTED FACE"),
  (0x1F61F, "aWORRIEDnaANGRYnaPOUTINGnaCRYINGnaPERSEVERINGnaFACE WITH LOOK OF TRIUMPH"),
  (0x1F625, "aDISAPPOINTED BUT RELIEVED FACEaFROWNING FACE WITH OPEN MOUTHaANGUISHED FACE"),
  (0x1F628, "aFEARFULnaWEARYnaSLEEPYnaTIREDnaGRIMACINGnaLOUDLY CRYINGnaFACE WITH OPEN MOUTH"),
  (0x1F62F, "aHUSHED FACEaFACE WITH OPEN MOUTH AND COLD SWEATbSCREAMING IN FEARaASTONISHED FACE"),
  (0x1F633, "aFLUSHEDnaSLEEPINGnaDIZZYnaFACE WITHOUT MOUTHbWITH MEDICAL MASK"),
  (0x1F638, "aGRINNING CAT FACE WITH SMILING EYESaCAT FACE WITH TEARS OF JOY"),
  (0x1F63A, "aSMILING CAT FACE WITH OPEN MOUTHeHEART-SHAPED EYESaCAT FACE WITH WRY SMILE"),
  (0x1F63D, "aKISSING CAT FACE WITH CLOSED EYESaPOUTING CAT FACEaCRYINGoaWEARYo"),
  (0x1F641, "aSLIGHTLY FROWNINGnbSMILINGnaUPSIDE-DOWNnaFACE WITH ROLLING EYEScNO GOOD GESTUREcOKn"),
  (0x1F647, "aPERSON BOWING DEEPLYaSEE-NO-EVIL MONKEYaHEAR-NO-EVILnaSPEAK-NO-EVILn"),
  (0x1F64B, "aHAPPY PERSON RAISING ONE HANDaPERSON RAISING BOTH HANDS IN CELEBRATIONbFROWNING"),
  (0x1F64E, "bWITH POUTING FACEcFOLDED HANDSaNORTH WEST POINTING LEAFaSOUTHpaNORTH EASToaSOUTHp"),
  (0x1F654, "aTURNED NORTH WESTobSOUTHpbNORTH EASTobSOUTHpaNORTH WEST POINTING VINEnaSOUTHq"),
  (0x1F65A, "aNORTH EASTpaSOUTHqaHEAVY NORTH WESTpbSOUTHqbNORTH EASTpbSOUTHq"),
  (0x1F660, "aNORTH WEST POINTING BUDaSOUTHpaNORTH EASToaSOUTHpaHEAVY NORTH WESTobSOUTHp"),
  (0x1F666, "bNORTH EASTobSOUTHpaHOLLOW QUILT SQUARE ORNAMENTeIN BLACK SQUARE"),
  (0x1F66A, "aSOLID QUILT SQUARE ORNAMENTeIN BLACK SQUAREaLEFTWARDS ROCKETaUPWARDSnaRIGHTWARDSn"),
  (0x1F66F, "aDOWNWARDSnaSCRIPT LIGATURE ET ORNAMENTaHEAVYqaLIGATURE OPENoaHEAVYqbAMPERSANDn"),
  (0x1F675, "aSWASHoaSANS-SERIF HEAVY DOUBLE TURNED COMMA QUOTATION MARKndqcLOWr"),
  (0x1F679, "aHEAVY INTERROBANGnaSANS-SERIFoaHEAVYpaVERY HEAVY SOLIDUScREVERSEnaCHECKER BOARD"),
  (0x1F67F, "aREVERSEoaROCKETaHELICOPTERaSTEAM LOCOMOTIVEaRAILWAY CARaHIGH-SPEED TRAIN"),
  (0x1F685, "cWITH BULLET NOSEaTRAINaMETROaLIGHT RAILaSTATIONaTRAMbCARaBUSaONCOMINGnaTROLLEYBUS"),
  (0x1F68F, "aBUS STOPaMINIBUSaAMBULANCEaFIRE ENGINEaPOLICE CARaONCOMINGoaTAXIaONCOMINGn"),
  (0x1F697, "aAUTOMOBILEaONCOMINGnaRECREATIONAL VEHICLEaDELIVERY TRUCKaARTICULATED LORRYaTRACTOR"),
  (0x1F69D, "aMONORAILaMOUNTAIN RAILWAYaSUSPENSIONnaMOUNTAIN CABLEWAYaAERIAL TRAMWAYaSHIPaROWBOAT"),
  (0x1F6A4, "aSPEEDBOATaHORIZONTAL TRAFFIC LIGHTaVERTICALoaCONSTRUCTION SIGN"),
  (0x1F6A8, "aPOLICE CARS REVOLVING LIGHTaTRIANGULAR FLAG ON POSTaDOORaNO ENTRY SIGN"),
  (0x1F6AC, "aSMOKING SYMBOLaNOoaPUT LITTER IN ITS PLACEnaDO NOT LITTERnaPOTABLE WATERn"),
  (0x1F6B1, "aNON-POTABLEoaBICYCLEaNO BICYCLESaBICYCLISTaMOUNTAINnaPEDESTRIANaNO PEDESTRIANS"),
  (0x1F6B8, "aCHILDREN CROSSINGaMENS SYMBOLaWOMENSnaRESTROOMaBABY SYMBOLaTOILETaWATER CLOSET"),
  (0x1F6BF, "aSHOWERaBATHaBATHTUBaPASSPORT CONTROLaCUSTOMSaBAGGAGE CLAIMaLEFT LUGGAGE"),
  (0x1F6C6, "aTRIANGLE WITH ROUNDED CORNERSaPROHIBITED SIGNaCIRCLED INFORMATION SOURCE"),
  (0x1F6C9, "aBOYS SYMBOLaGIRLSnaCOUCH AND LAMPaSLEEPING ACCOMMODATIONaSHOPPING BAGSaBELLHOP BELL"),
  (0x1F6CF, "aBEDaPLACE OF WORSHIPaOCTAGONAL SIGNaSHOPPING TROLLEYaSTUPAaPAGODAaHINDU TEMPLEaHUT"),
  (0x1F6D7, "aELEVATOR"),
  (0x1F6DD, "aPLAYGROUND SLIDEaWHEELaRING BUOYaHAMMER AND WRENCHaSHIELDaOIL DRUMaMOTORWAY"),
  (0x1F6E4, "aRAILWAY TRACKaMOTOR BOATaUP-POINTING MILITARY AIRPLANEbnbSMALLnao"),
  (0x1F6EA, "aNORTHEAST-POINTINGnaAIRPLANE DEPARTUREbARRIVING"),
  (0x1F6F0, "aSATELLITEaONCOMING FIRE ENGINEaDIESEL LOCOMOTIVEaPASSENGER SHIPaSCOOTERaMOTORn"),
  (0x1F6F6, "aCANOEaSLEDaFLYING SAUCERaSKATEBOARDaAUTO RICKSHAWaPICKUP TRUCKaROLLER SKATE"),
  (0x1F700, "aALCHEMICAL SYMBOL FOR QUINTESSENCEdAIRdFIREdEARTHdWATERdAQUAFORTISdAQUA REGIA"),
  (0x1F707, "eREGIA-2eVITAEeVITAE-2dVINEGARdVINEGAR-2dVINEGAR-3dSULFURdPHILOSOPHERSndBLACKn"),
  (0x1F710, "dMERCURY SUBLIMATEeSUBLIMATE-2eSUBLIMATE-3dCINNABARdSALTdNITREdVITRIOLdVITRIOL-2"),
  (0x1F718, "dROCK SALTeSALT-2dGOLDdSILVERdIRON OREeORE-2dCROCUS OF IRONdREGULUSodCOPPER ORE"),
  (0x1F721, "dIRON-COPPERndSUBLIMATE OF COPPERdCROCUSofCOPPER-2dCOPPER ANTIMONIATEdSALT OFo"),
  (0x1F727, "dSUBLIMATE OF SALT OF COPPERdVERDIGRISdTIN OREdLEADndANTIMONYndSUBLIMATE OF ANTIMONY"),
  (0x1F72D, "dSALTodSUBLIMATE OFpdVINEGARodREGULUSofANTIMONY-2edREGULUS-2dREGULUS-3dREGULUS-4"),
  (0x1F736, "dALKALIdALKALI-2dMARCASITEdSAL-AMMONIACdARSENICdREALGARdREALGAR-2dAURIPIGMENT"),
  (0x1F73E, "dBISMUTH OREdTARTARdTARTAR-2dQUICK LIMEdBORAXdBORAX-2dBORAX-3dALUMdOILdSPIRIT"),
  (0x1F748, "dTINCTUREdGUMdWAXdPOWDERdCALXdTUTTYdCAPUT MORTUUMdSCEPTER OF JOVEdCADUCEUSdTRIDENT"),
  (0x1F752, "dSTARREDndLODESTONEdSOAPdURINEdHORSE DUNGdASHESdPOTndBRICKdPOWDEREDndAMALGAM"),
  (0x1F75C, "dSTRATUM SUPER STRATUMfSTRATUM-2dSUBLIMATIONdPRECIPITATEdDISTILLdDISSOLVEdDISSOLVE-2"),
  (0x1F763, "dPURIFYdPUTREFACTIONdCRUCIBLEdCRUCIBLE-2dCRUCIBLE-3dCRUCIBLE-4dCRUCIBLE-5dALEMBIC"),
  (0x1F76B, "dBATH OF MARYfVAPOURSdRETORTdHOURdNIGHTdDAY-NIGHTdMONTHdHALF DRAMeOUNCE"),
  (0x1F780, "aBLACK LEFT-POINTING ISOSCELES RIGHT TRIANGLEbUP-POINTINGpbRIGHT-POINTINGp"),
  (0x1F783, "bDOWN-POINTINGpbSLIGHTLY SMALL CIRCLEaMEDIUM BOLD WHITEnapaHEAVYoaVERYpaEXTREMELYp"),
  (0x1F78A, "aWHITE CIRCLE CONTAINING BLACK SMALLnaROUND TARGETaBLACK TINY SQUAREbSLIGHTLY SMALLn"),
  (0x1F78E, "aLIGHT WHITEnaMEDIUMoaBOLDoaHEAVYoaVERYpaEXTREMELYp"),
  (0x1F794, "aWHITE SQUARE CONTAINING BLACK VERY SMALLneMEDIUMnaSQUARE TARGETaBLACK TINY DIAMOND"),
  (0x1F798, "bVERY SMALLnbMEDIUMoaWHITE DIAMOND CONTAINING BLACK VERYoeMEDIUMnaDIAMOND TARGET"),
  (0x1F79D, "aBLACK TINY LOZENGEbVERY SMALLnbMEDIUMoaWHITE LOZENGE CONTAINING BLACKo"),
  (0x1F7A1, "aTHIN GREEK CROSSaLIGHToaMEDIUMoaBOLDoaVERYpbHEAVYoaEXTREMELYpaTHIN SALTIREaLIGHTn"),
  (0x1F7AA, "aMEDIUMnaBOLDnaHEAVYnaVERYoaEXTREMELYoaLIGHT FIVE SPOKED ASTERISKaMEDIUMpaBOLDp"),
  (0x1F7B2, "aHEAVYpaVERYqaEXTREMELYqaLIGHT SIXoaMEDIUMpaBOLDpaHEAVYpaVERYqaEXTREMELYq"),
  (0x1F7BB, "aLIGHT EIGHToaMEDIUMpaBOLDpaHEAVYpaVERYqaLIGHT THREE POINTED BLACK STARaMEDIUMqaq"),
  (0x1F7C3, "aMEDIUM THREE POINTED PINWHEELnaLIGHT FOUR POINTED BLACKnaMEDIUMqaq"),
  (0x1F7C7, "aMEDIUM FOUR POINTED PINWHEELnaREVERSE LIGHTqaLIGHT FIVE POINTED BLACKnaHEAVYq"),
  (0x1F7CB, "aMEDIUM SIXpaHEAVYqaSIX POINTED PINWHEELnaMEDIUM EIGHT POINTED BLACKnaHEAVYqaVERYr"),
  (0x1F7D1, "aHEAVY EIGHT POINTED PINWHEELnaLIGHT TWELVE POINTED BLACKnaHEAVYqdPINWHEELn"),
  (0x1F7D5, "aCIRCLED TRIANGLEaNEGATIVEoaCIRCLED SQUAREaNEGATIVEo"),
  (0x1F7E0, "aLARGE ORANGE CIRCLEbYELLOWnbGREENnbPURPLEnbBROWNnbRED SQUAREbBLUEnbORANGEnbYELLOWn"),
  (0x1F7E9, "bGREENnbPURPLEnbBROWNn"),
  (0x1F7F0, "aHEAVY EQUALS SIGN"),
  (0x1F800, "aLEFTWARDS ARROW WITH SMALL TRIANGLE ARROWHEADaUPWARDSraRIGHTWARDSraDOWNWARDSr"),
  (0x1F804, "aLEFTWARDS ARROW WITH MEDIUMoaUPWARDSraRIGHTWARDSraDOWNWARDSr"),
  (0x1F808, "aLEFTWARDS ARROW WITH LARGEoaUPWARDSraRIGHTWARDSraDOWNWARDSr"),
  (0x1F810, "aLEFTWARDS ARROW WITH SMALL EQUILATERALnaUPWARDSraRIGHTWARDSraDOWNWARDSr"),
  (0x1F814, "aLEFTWARDS ARROW WITHoaUPWARDSqaRIGHTWARDSqaDOWNWARDSqaHEAVY LEFTWARDSqbUPWARDSq"),
  (0x1F81A, "bRIGHTWARDSqbDOWNWARDSqbLEFTWARDS ARROW WITH LARGEobUPWARDSrbRIGHTWARDSrbDOWNWARDSr"),
  (0x1F820, "aLEFTWARDS TRIANGLE-HEADED ARROW WITH NARROW SHAFTaUPWARDSraRIGHTWARDSraDOWNWARDSr"),
  (0x1F824, "aLEFTWARDS TRIANGLE-HEADED ARROW WITH MEDIUMnaUPWARDSraRIGHTWARDSraDOWNWARDSr"),
  (0x1F828, "aLEFTWARDS TRIANGLE-HEADED ARROW WITH BOLDnaUPWARDSraRIGHTWARDSraDOWNWARDSr"),
  (0x1F82C, "aLEFTWARDS TRIANGLE-HEADED ARROW WITH HEAVYnaUPWARDSraRIGHTWARDSraDOWNWARDSr"),
  (0x1F830, "aLEFTWARDS TRIANGLE-HEADED ARROW WITH VERYoaUPWARDSsaRIGHTWARDSsaDOWNWARDSs"),
  (0x1F834, "aLEFTWARDS FINGER-POST ARROWaUPWARDSoaRIGHTWARDSoaDOWNWARDSoaLEFTWARDS SQUAREDn"),
  (0x1F839, "aUPWARDSoaRIGHTWARDSoaDOWNWARDSoaLEFTWARDS COMPRESSEDnaUPWARDSoaRIGHTWARDSo"),
  (0x1F83F, "aDOWNWARDSoaLEFTWARDS HEAVYoaUPWARDSpaRIGHTWARDSpaDOWNWARDSpaLEFTWARDS HEAVYn"),
  (0x1F845, "aUPWARDSoaRIGHTWARDSoaDOWNWARDSo"),
  (0x1F850, "aLEFTWARDS SANS-SERIFnaUPWARDSoaRIGHTWARDSoaDOWNWARDSoaNORTH WESTobEASToaSOUTHp"),
  (0x1F857, "bWESToaLEFT RIGHToaUP DOWNo"),
  (0x1F860, "aWIDE-HEADED LEFTWARDS LIGHT BARBnbUPWARDSpbRIGHTWARDSpbDOWNWARDSpbNORTH WESTpcEASTp"),
  (0x1F866, "bSOUTHqcWESTpbLEFTWARDSobUPWARDSobRIGHTWARDSobDOWNWARDSobNORTH WESTocEASTobSOUTHp"),
  (0x1F86F, "cWESTobLEFTWARDS MEDIUMobUPWARDSpbRIGHTWARDSpbDOWNWARDSpbNORTH WESTpcEASTpbSOUTHq"),
  (0x1F877, "cWESTpbLEFTWARDS HEAVYobUPWARDSpbRIGHTWARDSpbDOWNWARDSpbNORTH WESTpcEASTpbSOUTHq"),
  (0x1F87F, "cWESTpbLEFTWARDS VERYpbUPWARDSqbRIGHTWARDSqbDOWNWARDSqbNORTH WESTqcEASTqbSOUTHr"),
  (0x1F887, "cWESTq"),
  (0x1F890, "aLEFTWARDS TRIANGLE ARROWHEADaUPWARDSoaRIGHTWARDSoaDOWNWARDSo"),
  (0x1F894, "aLEFTWARDS WHITE ARROW WITHINoaUPWARDSraRIGHTWARDSraDOWNWARDSr"),
  (0x1F898, "aLEFTWARDS ARROW WITH NOTCHED TAILaUPWARDSqaRIGHTWARDSqaDOWNWARDSq"),
  (0x1F89C, "aHEAVY ARROW SHAFT WIDTH ONEeTWO THIRDSeONE HALFfTHIRD"),
  (0x1F8A0, "aLEFTWARDS BOTTOM-SHADED WHITE ARROWaRIGHTWARDS BOTTOM SHADEDoaLEFTWARDS TOPp"),
  (0x1F8A3, "aRIGHTWARDSqaLEFTWARDS LEFT-SHADEDoaRIGHTWARDS RIGHT-SHADEDoaLEFTWARDSp"),
  (0x1F8A7, "aRIGHTWARDS LEFT-SHADEDoaLEFTWARDS BACK-TILTED SHADOWEDoaRIGHTWARDSq"),
  (0x1F8AA, "aLEFTWARDS FRONT-TILTEDpaRIGHTWARDSqaWHITE ARROW SHAFT WIDTH ONEeTWO THIRDS"),
  (0x1F8B0, "aARROW POINTING UPWARDS THEN NORTH WESTcRIGHTWARDS THEN CURVING SOUTHn"),
  (0x1F900, "aCIRCLED CROSS FORMEE WITH FOUR DOTSeTWOndaLEFT HALF CIRCLE WITH FOUR DOTSeTHREEn"),
  (0x1F905, "eTWOneDOTdaDOWNWARD FACING HOOKcNOTCHEDncHOOK WITH DOTcNOTCHEDpaPINCHED FINGERS"),
  (0x1F90D, "aWHITE HEARTaBROWNnaPINCHING HANDaZIPPER-MOUTH FACEaMONEY-MOUTHn"),
  (0x1F912, "aFACE WITH THERMOMETERaNERD FACEaTHINKINGnaFACE WITH HEAD-BANDAGEaROBOT FACE"),
  (0x1F917, "aHUGGINGnaSIGN OF THE HORNSaCALL ME HANDaRAISED BACK OFnaLEFT-FACING FIST"),
  (0x1F91C, "aRIGHT-FACINGnaHANDSHAKEaHAND WITH INDEX AND MIDDLE FINGERS CROSSED"),
  (0x1F91F, "aI LOVE YOU HAND SIGNaFACE WITH COWBOY HATaCLOWN FACEaNAUSEATEDn"),
  (0x1F923, "aROLLING ON THE FLOOR LAUGHINGaDROOLING FACEaLYINGnaFACE PALMaSNEEZING FACE"),
  (0x1F928, "aFACE WITH ONE EYEBROW RAISEDaGRINNING FACE WITH STAR EYES"),
  (0x1F92A, "dONE LARGE AND ONE SMALL EYEaFACE WITH FINGER COVERING CLOSED LIPS"),
  (0x1F92C, "aSERIOUS FACE WITH SYMBOLS COVERING MOUTHaSMILING FACE WITH SMILING EYES AND HANDo"),
  (0x1F92E, "aFACE WITH OPEN MOUTH VOMITINGaSHOCKED FACE WITH EXPLODING HEADaPREGNANT WOMAN"),
  (0x1F931, "aBREAST-FEEDINGaPALMS UP TOGETHERaSELFIEaPRINCEaMAN IN TUXEDOaMOTHER CHRISTMASaSHRUG"),
  (0x1F938, "aPERSON DOING CARTWHEELaJUGGLINGaFENCERaMODERN PENTATHLONaWRESTLERSaWATER POLO"),
  (0x1F93E, "aHANDBALLaDIVING MASKaWILTED FLOWERaDRUM WITH DRUMSTICKSaCLINKING GLASSES"),
  (0x1F943, "aTUMBLER GLASSaSPOONaGOAL NETaRIFLEaFIRST PLACE MEDALaSECONDoaTHIRDoaBOXING GLOVE"),
  (0x1F94B, "aMARTIAL ARTS UNIFORMaCURLING STONEaLACROSSE STICK AND BALLaSOFTBALLaFLYING DISC"),
  (0x1F950, "aCROISSANTaAVOCADOaCUCUMBERaBACONaPOTATOaCARROTaBAGUETTE BREADaGREEN SALAD"),
  (0x1F958, "aSHALLOW PAN OF FOODaSTUFFED FLATBREADaEGGaGLASS OF MILKaPEANUTSaKIWIFRUITaPANCAKES"),
  (0x1F95F, "aDUMPLINGaFORTUNE COOKIEaTAKEOUT BOXaCHOPSTICKSaBOWL WITH SPOONaCUP WITH STRAW"),
  (0x1F965, "aCOCONUTaBROCCOLIaPIEaPRETZELaCUT OF MEATaSANDWICHaCANNED FOODaLEAFY GREENaMANGO"),
  (0x1F96E, "aMOON CAKEaBAGELaSMILING FACE WITH SMILING EYES AND THREE HEARTSaYAWNING FACE"),
  (0x1F972, "aSMILING FACE WITH TEARaFACE WITH PARTY HORN AND PARTY HAT"),
  (0x1F974, "cUNEVEN EYES AND WAVY MOUTHaOVERHEATED FACEaFREEZINGnaNINJAaDISGUISED FACE"),
  (0x1F979, "aFACE HOLDING BACK TEARSbWITH PLEADING EYESaSARIaLAB COATaGOGGLESaHIKING BOOT"),
  (0x1F97F, "aFLAT SHOEaCRABaLION FACEaSCORPIONaTURKEYaUNICORN FACEaEAGLEaDUCKaBATaSHARKaOWL"),
  (0x1F98A, "aFOX FACEaBUTTERFLYaDEERaGORILLAaLIZARDaRHINOCEROSaSHRIMPaSQUIDaGIRAFFE FACEaZEBRAn"),
  (0x1F994, "aHEDGEHOGaSAUROPODaT-REXaCRICKETaKANGAROOaLLAMAaPEACOCKaHIPPOPOTAMUSaPARROTaRACCOON"),
  (0x1F99E, "aLOBSTERaMOSQUITOaMICROBEaBADGERaSWANaMAMMOTHaDODOaSLOTHaOTTERaORANGUTANaSKUNK"),
  (0x1F9A9, "aFLAMINGOaOYSTERaBEAVERaBISONaSEALaGUIDE DOGaPROBING CANEaEMOJI COMPONENT RED HAIR"),
  (0x1F9B1, "cCURLYncBALDcWHITE HAIRaBONEaLEGaFOOTaTOOTHaSUPERHEROaSUPERVILLAINaSAFETY VEST"),
  (0x1F9BB, "aEAR WITH HEARING AIDaMOTORIZED WHEELCHAIRaMANUALnaMECHANICAL ARMbLEGaCHEESE WEDGE"),
  (0x1F9C1, "aCUPCAKEaSALT SHAKERaBEVERAGE BOXaGARLICaONIONaFALAFELaWAFFLEaBUTTERaMATE DRINK"),
  (0x1F9CA, "aICE CUBEaBUBBLE TEAaTROLLaSTANDING PERSONaKNEELINGnaDEAFnaFACE WITH MONOCLEaADULT"),
  (0x1F9D2, "aCHILDaOLDER ADULTaBEARDED PERSONaPERSON WITH HEADSCARFbIN STEAMY ROOMbCLIMBING"),
  (0x1F9D8, "bIN LOTUS POSITIONaMAGEaFAIRYaVAMPIREaMERPERSONaELFaGENIEaZOMBIEaBRAINaORANGE HEART"),
  (0x1F9E2, "aBILLED CAPaSCARFaGLOVESaCOATaSOCKSaRED GIFT ENVELOPEaFIRECRACKER"),
  (0x1F9E9, "aJIGSAW PUZZLE PIECEaTEST TUBEaPETRI DISHaDNA DOUBLE HELIXaCOMPASSaABACUS"),
  (0x1F9EF, "aFIRE EXTINGUISHERaTOOLBOXaBRICKaMAGNETaLUGGAGEaLOTION BOTTLEaSPOOL OF THREAD"),
  (0x1F9F6, "aBALL OF YARNaSAFETY PINaTEDDY BEARaBROOMaBASKETaROLL OF PAPERaBAR OF SOAPaSPONGE"),
  (0x1F9FE, "aRECEIPTaNAZAR AMULETaNEUTRAL CHESS KINGcQUEENcROOKcBISHOPcKNIGHTcPAWN"),
  (0x1FA06, "aWHITE CHESS KNIGHT ROTATED FORTY-FIVE DEGREESaBLACKraNEUTRALr"),
  (0x1FA09, "aWHITE CHESS KING ROTATED NINETYncQUEENpcROOKpcBISHOPpcKNIGHTpcPAWNp"),
  (0x1FA0F, "aBLACK CHESS KINGpcQUEENpcROOKpcBISHOPpcKNIGHTpcPAWNpaNEUTRAL CHESS KINGpcQUEENp"),
  (0x1FA17, "cROOKpcBISHOPpcKNIGHTpcPAWNpaWHITE CHESS KNIGHT ROTATED ONE HUNDRED THIRTY-FIVEn"),
  (0x1FA1C, "aBLACKtaNEUTRALtaWHITE CHESS TURNED KINGdQUEENdROOKdBISHOPdKNIGHTdPAWN"),
  (0x1FA24, "aBLACK CHESS TURNED KINGdQUEENdROOKdBISHOPdKNIGHTdPAWNaNEUTRAL CHESS TURNED KING"),
  (0x1FA2B, "dQUEENdROOKdBISHOPdKNIGHTdPAWN"),
  (0x1FA30, "aWHITE CHESS KNIGHT ROTATED TWO HUNDRED TWENTY-FIVE DEGREESaBLACKtaNEUTRALt"),
  (0x1FA33, "aWHITE CHESS KING ROTATED TWO HUNDRED SEVENTYncQUEENrcROOKrcBISHOPrcKNIGHTrcPAWNr"),
  (0x1FA39, "aBLACK CHESS KINGrcQUEENrcROOKrcBISHOPrcKNIGHTrcPAWNraNEUTRAL CHESS KINGrcQUEENr"),
  (0x1FA41, "cROOKrcBISHOPrcKNIGHTrcPAWNraWHITE CHESS KNIGHT ROTATED THREE HUNDRED FIFTEENn"),
  (0x1FA46, "aBLACKtaNEUTRALtaWHITE CHESS EQUIHOPPERaBLACKoaNEUTRALo"),
  (0x1FA4B, "aWHITE CHESS EQUIHOPPER ROTATED NINETY DEGREESaBLACKraNEUTRALr"),
  (0x1FA4E, "aWHITE CHESS KNIGHT-QUEENcKNIGHT-ROOKcKNIGHT-BISHOPaBLACK CHESS KNIGHT-QUEEN"),
  (0x1FA52, "cKNIGHT-ROOKcKNIGHT-BISHOP"),
  (0x1FA60, "aXIANGQI RED GENERALcMANDARINcELEPHANTcHORSEcCHARIOTcCANNONcSOLDIERbBLACK GENERAL"),
  (0x1FA68, "cMANDARINcELEPHANTcHORSEcCHARIOTcCANNONcSOLDIER"),
  (0x1FA70, "aBALLET SHOESaONE-PIECE SWIMSUITaBRIEFSaSHORTSaTHONG SANDAL"),
  (0x1FA78, "aDROP OF BLOODaADHESIVE BANDAGEaSTETHOSCOPEaX-RAYaCRUTCH"),
  (0x1FA80, "aYO-YOaKITEaPARACHUTEaBOOMERANGaMAGIC WANDaPINATAaNESTING DOLLS"),
  (0x1FA90, "aRINGED PLANETaCHAIRaRAZORaAXEaDIYA LAMPaBANJOaMILITARY HELMETaACCORDIONaLONG DRUM"),
  (0x1FA99, "aCOINaCARPENTRY SAWaSCREWDRIVERaLADDERaHOOKaMIRRORaWINDOWaPLUNGERaSEWING NEEDLEaKNOT"),
  (0x1FAA3, "aBUCKETaMOUSE TRAPaTOOTHBRUSHaHEADSTONEaPLACARDaROCKaMIRROR BALLaIDENTIFICATION CARD"),
  (0x1FAAB, "aLOW BATTERYaHAMSA"),
  (0x1FAB0, "aFLYaWORMaBEETLEaCOCKROACHaPOTTED PLANTaWOODaFEATHERaLOTUSaCORALaEMPTY NEST"),
  (0x1FABA, "aNEST WITH EGGS"),
  (0x1FAC0, "aANATOMICAL HEARTaLUNGSaPEOPLE HUGGINGaPREGNANT MANbPERSONaPERSON WITH CROWN"),
  (0x1FAD0, "aBLUEBERRIESaBELL PEPPERaOLIVEaFLATBREADaTAMALEaFONDUEaTEAPOTaPOURING LIQUIDaBEANS"),
  (0x1FAD9, "aJAR"),
  (0x1FAE0, "aMELTING FACEaSALUTINGnaFACE WITH OPEN EYES AND HAND OVER MOUTHcPEEKING EYE"),
  (0x1FAE4, "cDIAGONAL MOUTHaDOTTED LINE FACEaBITING LIPaBUBBLES"),
  (0x1FAF0, "aHAND WITH INDEX FINGER AND THUMB CROSSEDaRIGHTWARDS HANDaLEFTWARDSnaPALM DOWNnbUPn"),
  (0x1FAF5, "aINDEX POINTING AT THE VIEWERaHEART HANDS"),
  (0x1FB00, "aBLOCK SEXTANT-1bSEXTANT-2bSEXTANT-12bSEXTANT-3bSEXTANT-13bSEXTANT-23bSEXTANT-123"),
  (0x1FB07, "bSEXTANT-4bSEXTANT-14bSEXTANT-24bSEXTANT-124bSEXTANT-34bSEXTANT-134bSEXTANT-234"),
  (0x1FB0E, "bSEXTANT-1234bSEXTANT-5bSEXTANT-15bSEXTANT-25bSEXTANT-125bSEXTANT-35bSEXTANT-235"),
  (0x1FB15, "bSEXTANT-1235bSEXTANT-45bSEXTANT-145bSEXTANT-245bSEXTANT-1245bSEXTANT-345"),
  (0x1FB1B, "bSEXTANT-1345bSEXTANT-2345bSEXTANT-12345bSEXTANT-6bSEXTANT-16bSEXTANT-26bSEXTANT-126"),
  (0x1FB22, "bSEXTANT-36bSEXTANT-136bSEXTANT-236bSEXTANT-1236bSEXTANT-46bSEXTANT-146bSEXTANT-1246"),
  (0x1FB29, "bSEXTANT-346bSEXTANT-1346bSEXTANT-2346bSEXTANT-12346bSEXTANT-56bSEXTANT-156"),
  (0x1FB2F, "bSEXTANT-256bSEXTANT-1256bSEXTANT-356bSEXTANT-1356bSEXTANT-2356bSEXTANT-12356"),
  (0x1FB35, "bSEXTANT-456bSEXTANT-1456bSEXTANT-2456bSEXTANT-12456bSEXTANT-3456bSEXTANT-13456"),
  (0x1FB3B, "bSEXTANT-23456aLOWER LEFT BLOCK DIAGONAL LOWER MIDDLE LEFT TO LOWER CENTREjRIGHT"),
  (0x1FB3E, "eUPPER MIDDLE LEFT TO LOWER CENTREjRIGHTfLEFT TO LOWER CENTRE"),
  (0x1FB41, "bRIGHT BLOCK DIAGONAL UPPER MIDDLE LEFT TO UPPERnjRIGHT"),
  (0x1FB43, "eLOWER MIDDLE LEFT TO UPPER CENTREjRIGHTfLEFT TO UPPER CENTRE"),
  (0x1FB46, "fMIDDLE LEFT TO UPPER MIDDLE RIGHTfCENTRE TO LOWERofLEFTqfCENTRE TO UPPERofLEFTq"),
  (0x1FB4B, "fCENTRE TO UPPERnbLEFT BLOCK DIAGONAL UPPER CENTRE TO UPPER MIDDLEnfLEFTq"),
  (0x1FB4E, "fCENTRE TO LOWERofLEFTqfCENTRE TO LOWERnfMIDDLE LEFT TO LOWER MIDDLEn"),
  (0x1FB52, "aUPPER RIGHT BLOCK DIAGONAL LOWER MIDDLE LEFT TO LOWER CENTREjRIGHT"),
  (0x1FB54, "eUPPER MIDDLE LEFT TO LOWER CENTREjRIGHTfLEFT TO LOWER CENTRE"),
  (0x1FB57, "bLEFT BLOCK DIAGONAL UPPER MIDDLE LEFT TO UPPERnjRIGHT"),
  (0x1FB59, "eLOWER MIDDLE LEFT TO UPPER CENTREjRIGHTfLEFT TO UPPER CENTRE"),
  (0x1FB5C, "fMIDDLE LEFT TO UPPER MIDDLE RIGHTfCENTRE TO LOWERofLEFTqfCENTRE TO UPPERofLEFTq"),
  (0x1FB61, "fCENTRE TO UPPERnbRIGHT BLOCK DIAGONAL UPPER CENTRE TO UPPER MIDDLEnfLEFTq"),
  (0x1FB64, "fCENTRE TO LOWERofLEFTqfCENTRE TO LOWERnfMIDDLE LEFT TO LOWER MIDDLEn"),
  (0x1FB68, "bAND RIGHT AND LOWER TRIANGULAR THREE QUARTERS BLOCKaLEFT AND LOWER AND RIGHTq"),
  (0x1FB6A, "aUPPER AND LEFT AND LOWERqaLEFT AND UPPER AND RIGHTqbTRIANGULAR ONE QUARTERnaUPPERq"),
  (0x1FB6E, "aRIGHTqaLOWERqaVERTICAL ONE EIGHTH BLOCK-2dBLOCK-3dBLOCK-4dBLOCK-5dBLOCK-6dBLOCK-7"),
  (0x1FB76, "aHORIZONTAL ONE EIGHTH BLOCK-2dBLOCK-3dBLOCK-4dBLOCK-5dBLOCK-6dBLOCK-7"),
  (0x1FB7C, "aLEFT AND LOWER ONE EIGHTH BLOCKcUPPERpaRIGHTrcLOWERpaUPPERr"),
  (0x1FB81, "aHORIZONTAL ONE EIGHTH BLOCK-1358aUPPER ONE QUARTER BLOCKbTHREE EIGHTHSnbFIVEo"),
  (0x1FB85, "bTHREE QUARTERSnbSEVEN EIGHTHSnaRIGHT ONE QUARTERnbTHREE EIGHTHSnbFIVEo"),
  (0x1FB8A, "bTHREE QUARTERSnbSEVEN EIGHTHSnaLEFT HALF MEDIUM SHADEaRIGHTpaUPPERpaLOWERpaINVERSEo"),
  (0x1FB91, "aUPPER HALF BLOCK AND LOWER HALFpcINVERSE MEDIUM SHADE AND LOWER HALF BLOCK"),
  (0x1FB94, "aLEFT HALF INVERSE MEDIUM SHADE AND RIGHToaCHECKER BOARD FILLaINVERSEp"),
  (0x1FB97, "aHEAVY HORIZONTALnaUPPER LEFT TO LOWER RIGHTnbRIGHT TO LOWER LEFTn"),
  (0x1FB9A, "bAND LOWER TRIANGULAR HALF BLOCKaLEFT AND RIGHTpaUPPER LEFT TRIANGULAR MEDIUM SHADE"),
  (0x1FB9D, "bRIGHTpaLOWERqbLEFTpaBOX DRAWINGS LIGHT DIAGONAL UPPER CENTRE TO MIDDLE LEFTiRIGHT"),
  (0x1FBA2, "eMIDDLE LEFT TO LOWER CENTREfRIGHTpeUPPER CENTRE TO MIDDLE LEFTpiRIGHTp"),
  (0x1FBA6, "eMIDDLE LEFT TO LOWER CENTRE TO MIDDLE RIGHThUPPERq"),
  (0x1FBA8, "eUPPER CENTRE TO MIDDLE LEFT AND MIDDLE RIGHT TO LOWER CENTREiRIGHT AND MIDDLE LEFTp"),
  (0x1FBAA, "jTO LOWER CENTRE TO MIDDLE LEFTiLEFT TO LOWER CENTRE TO MIDDLE RIGHT"),
  (0x1FBAC, "eMIDDLE LEFT TO UPPER CENTRE TO MIDDLE RIGHT TO LOWER CENTRE"),
  (0x1FBAD, "fRIGHT TO UPPER CENTRE TO MIDDLE LEFTpeDIAMONDdHORIZONTAL WITH VERTICAL STROKE"),
  (0x1FBB0, "aARROWHEAD-SHAPED POINTERaINVERSE CHECK MARKaLEFT HALF RUNNING MANaRIGHTp"),
  (0x1FBB4, "aINVERSE DOWNWARDS ARROW WITH TIP LEFTWARDS"),
  (0x1FBB5, "aLEFTWARDS ARROW AND UPPER AND LOWER ONE EIGHTH BLOCKaRIGHTWARDSu"),
  (0x1FBB7, "aDOWNWARDS ARROW AND RIGHTpaUPWARDSsaLEFT HALF FOLDERaRIGHToaVOIDED GREEK CROSS"),
  (0x1FBBC, "aRIGHT OPEN SQUARED DOTaNEGATIVE DIAGONAL CROSScMIDDLE RIGHT TO LOWER CENTREcDIAMOND"),
  (0x1FBC0, "aWHITE HEAVY SALTIRE WITH ROUNDED CORNERSaLEFT THIRD WHITE RIGHT POINTING INDEX"),
  (0x1FBC2, "aMIDDLEraRIGHTraNEGATIVE SQUARED QUESTION MARKaSTICK FIGUREcWITH ARMS RAISED"),
  (0x1FBC7, "cLEANING LEFTdRIGHTcWITH DRESSaWHITE UP-POINTING CHEVRON"),
  (0x1FBF0, "aSEGMENTED DIGIT ZEROcONEcTWOcTHREEcFOURcFIVEcSIXcSEVENcEIGHTcNINE"),
  (0xE0001, "aLANGUAGE TAG"),
  (0xE0020, "aTAG SPACEbEXCLAMATION MARKbQUOTATIONnbNUMBER SIGNbDOLLARnbPERCENTnbAMPERSAND"),
  (0xE0027, "bAPOSTROPHEbLEFT PARENTHESISbRIGHTnbASTERISKbPLUS SIGNbCOMMAbHYPHEN-MINUSbFULL STOP"),
  (0xE002F, "bSOLIDUSbDIGIT ZEROcONEcTWOcTHREEcFOURcFIVEcSIXcSEVENcEIGHTcNINEbCOLONbSEMICOLON"),
  (0xE003C, "bLESS-THAN SIGNbEQUALSnbGREATER-THANnbQUESTION MARKbCOMMERCIAL AT"),
  (0xE0041, "bLATIN CAPITAL LETTER AeBeCeDeEeFeGeHeIeJeKeLeMeNeOePeQeReSeTeUeVeWeXeYeZ"),
  (0xE005B, "bLEFT SQUARE BRACKETbREVERSE SOLIDUSbRIGHT SQUARE BRACKETbCIRCUMFLEX ACCENTbLOW LINE"),
  (0xE0060, "bGRAVE ACCENTbLATIN SMALL LETTER AeBeCeDeEeFeGeHeIeJeKeLeMeNeOePeQeReSeTeUeVeWeXeYeZ"),
  (0xE007B, "bLEFT CURLY BRACKETbVERTICAL LINEbRIGHT CURLY BRACKETbTILDEaCANCEL TAG")]

end BooksGateway.Text.CharName
